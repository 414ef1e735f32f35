import Mathlib.Data.List.TakeDrop
import Kourosh.Tun2socks.Robustness

/-
  The bytes an app downloads.

  The reader writes each chunk to the TUN device and advances the sequence number by its length,
  whatever became of the write.

  Correctness is proven by:
    * `exec_readerEvents`
    * `tiles_writes_iff`
-/

-- Packets On The Device

namespace Kourosh.Tun2socks

open List TunPacket

def wordSum : Bytes → Nat
| [] => 0
| [b] => b.toNat * 256
| hi :: lo :: rest => (hi.toNat * 256 + lo.toNat) + wordSum rest

def foldCarries (sum : Nat) : Nat :=
  if sum / 65536 = 0 then sum else foldCarries (sum % 65536 + sum / 65536)
termination_by sum

def onesComplementSum (data : Bytes) : UInt16 := UInt16.ofNat (65535 - foldCarries (wordSum data))

def ipToBytes (ip : Ipv4Addr) : Bytes := [ip.a, ip.b, ip.c, ip.d]

def tcpChecksum (srcIp dstIp : Ipv4Addr) (segment : Bytes) : UInt16 :=
  onesComplementSum (ipToBytes srcIp ++
    ipToBytes dstIp ++ [0, 6] ++ u16ToBe (UInt16.ofNat segment.length) ++ segment)

namespace TunPacket

def options (p : TunPacket) : Bytes := if p.withMss then [0x02, 0x04] ++ u16ToBe 1240 else []

def tcpHdrLen (p : TunPacket) : Nat := 20 + if p.withMss then 4 else 0

def ipLen (p : TunPacket) : Nat := 20 + (p.tcpHdrLen + p.payload.length)

def ipHeader (p : TunPacket) (checksum : UInt16) : Bytes :=
  [0x45, 0x00] ++ (u16ToBe (UInt16.ofNat p.ipLen) ++
    ([0, 0, 0x40, 0x00, 64, 6] ++ (u16ToBe checksum ++ (ipToBytes p.srcIp ++ ipToBytes p.dstIp))))

def segment (p : TunPacket) (checksum : UInt16) : Bytes :=
  u16ToBe p.srcPort ++
    (u16ToBe p.dstPort ++ (u32ToBe p.seq ++ (u32ToBe p.ack ++ ([UInt8.ofNat (p.tcpHdrLen / 4) <<< 4,
    p.flags] ++ (u16ToBe 65535 ++ (u16ToBe checksum ++ ([0, 0] ++ (p.options ++ p.payload))))))))

/- The buffer that `send_tcp_ex` writes. -/
def bytes (p : TunPacket) : Bytes :=
  p.ipHeader (onesComplementSum (p.ipHeader 0)) ++
    p.segment (tcpChecksum p.srcIp p.dstIp (p.segment 0))

lemma length_ipHeader (p : TunPacket) (checksum : UInt16) :
  (p.ipHeader checksum).length = 20 := by simp [ipHeader, u16ToBe, ipToBytes]

lemma length_segment {p : TunPacket} (hPlain : p.withMss = false)
  (checksum : UInt16) : (p.segment checksum).length = 20 + p.payload.length := by
  simp [segment, u16ToBe, u32ToBe, options, hPlain]
  omega

end TunPacket

-- What Arrives

structure Arrival where
  seq : UInt32
  data : Bytes

/- What a packet brings. -/
def arrival (pkt : Bytes) : Option Arrival :=
  let total := (u16At pkt 2).toNat
  let start := headerLength pkt + tcpHeaderLength pkt
  let o := headerLength pkt + 4
  if start ≤ total ∧ total ≤ pkt.length then
    some
      { seq := u32FromBe (byteAt pkt o) (byteAt pkt (o + 1))
            (byteAt pkt (o + 2)) (byteAt pkt (o + 3))
        data := (pkt.take total).drop start }
  else none

def maxPayload : Nat := 65495

lemma arrival_bytes {p : TunPacket} (hPlain : p.withMss = false)
  (hRead : p.payload.length ≤ 65535) : arrival p.bytes =
    if p.payload.length ≤ maxPayload then some ⟨p.seq, p.payload⟩
    else none := by
  have hIpLen : p.ipLen = 40 + p.payload.length := by
    simp [ipLen, tcpHdrLen, hPlain]
    omega
  have hHdr : p.tcpHdrLen = 20 := by simp [tcpHdrLen, hPlain]
  have hLength : p.bytes.length = 40 + p.payload.length := by
    rw [bytes, length_append, length_ipHeader, length_segment hPlain]
    omega
  have hTotal : (u16At p.bytes 2).toNat = (40 + p.payload.length) % 65536 := by
    have hField : u16At p.bytes 2 = UInt16.ofNat p.ipLen := u16FromBe_toBe _
    rw [hField, hIpLen, UInt16.toNat_ofNat']
  have hIhl : headerLength p.bytes = 20 := by
    have hByte : byteAt p.bytes 0 = 0x45 := rfl
    rw [headerLength, hByte]
    rfl
  have hOffset : tcpHeaderLength p.bytes = 20 := by
    have hByte : byteAt p.bytes (20 + 12) = UInt8.ofNat (p.tcpHdrLen / 4) <<< 4 := rfl
    rw [tcpHeaderLength, hIhl, hByte, hHdr]
    rfl
  have hSeq : u32FromBe
    (byteAt p.bytes 24) (byteAt p.bytes 25) (byteAt p.bytes 26) (byteAt p.bytes 27) = p.seq :=
    u32FromBe_toBe p.seq
  have hPayload : p.bytes.drop 40 = p.payload := by
    simp only [bytes, ipHeader, TunPacket.segment, options, hPlain]
    rfl
  simp only [arrival, hTotal, hIhl, hOffset, hLength, hSeq]
  have hMax : maxPayload = 65495 := rfl
  by_cases hFits : p.payload.length ≤ maxPayload
  · have hMod : (40 + p.payload.length) % 65536 = 40 + p.payload.length := by omega
    rw [hMod, if_pos ⟨by omega, Nat.le_refl _⟩, if_pos hFits, ← hLength, take_length, hPayload]
  · rw [if_neg (by omega), if_neg hFits]

-- The Reader

/-
  A read from the SOCKS stream with what follows it: the acknowledgement counter at that time, and
  whether the write to the TUN device succeeds.
-/
structure Read where
  data : Bytes
  ack : UInt32
  written : Bool
  nonempty : 0 < data.length
  fits : data.length ≤ 65535

def streamOf (reads : List Read) : Bytes := reads.flatMap Read.data

def dataPacket (key : FlowKey) (seq : UInt32) (r : Read) : TunPacket :=
  key.toApp seq r.ack 0x18 r.data false

def advanced (seq : UInt32) (r : Read) : UInt32 := seq + UInt32.ofNat r.data.length

structure Written where
  offset : Nat
  bytes : Bytes

/- The loop of `tun_response_reader`: the data packets that are written. -/
def writes (key : FlowKey) : UInt32 → Nat → List Read → List Written
| _, _, [] => []
| seq, o, r :: reads =>
  let rest := writes key (advanced seq r) (o + r.data.length) reads
  if r.written then ⟨o, (dataPacket key seq r).bytes⟩ :: rest else rest

namespace Bridge

open Run

def readerEvents (f : Nat) (reads : List Read) : List Event :=
  reads.flatMap fun r => [.reader f (.recv r.data), .reader f .advance]

/- Where the device takes every packet, a reader of the bridge writes what the loop writes. -/
theorem exec_readerEvents
    {f : Nat}
    (reads : List Read)
    {s : Bridge}
    (o : Nat)
    (hReader : (s.flows f).reader = .running)
    (hReads : ∀ r ∈ reads, r.ack = (s.flows f).ackShared ∧ r.written) :
    ∃ s',
      exec step s (readerEvents f reads) = some s' ∧
      s'.tun.map (·.packet.bytes) =
        s.tun.map (·.packet.bytes) ++ (writes (s.flows f).key (s.flows f).seqShared o reads).map
          Written.bytes := by
  induction reads generalizing s o with
  | nil => exact ⟨s, rfl, (append_nil _).symm⟩
  | cons r reads ih =>
    rcases hReads r mem_cons_self with ⟨hAck, hWritten⟩
    let sent := (s.setFlow f { s.flows f with
          reader := .advancing (s.flows f).seqShared r.data.length }).stamp f
        (dataPacket (s.flows f).key (s.flows f).seqShared r)
    let after := sent.setFlow f
      { s.flows f with reader := .running, seqShared := advanced (s.flows f).seqShared r }
    have hRecv : s.step (.reader f (.recv r.data)) = some sent := by
      simp [step, tunResponseReader, hReader, r.nonempty, r.fits, sent, dataPacket, hAck]
    have hAdvance : sent.step (.reader f .advance) = some after := by
      simp [step, tunResponseReader, sent, after, stamp, setFlow, advanced]
    have hFlow : after.flows f = { s.flows f with
      reader := .running
      seqShared := advanced (s.flows f).seqShared r } := by simp [after, setFlow]
    have hRest : ∀ r' ∈ reads, r'.ack = (after.flows f).ackShared ∧ r'.written := by
      intro r' hMem
      rw [hFlow]
      exact hReads r' (mem_cons_of_mem _ hMem)
    rcases ih (o + r.data.length) (by rw [hFlow]) hRest with ⟨s', hExec, hTun⟩
    refine ⟨s', ?_, ?_⟩
    · simp only [readerEvents, flatMap_cons,
        cons_append, nil_append, exec, hRecv, hAdvance, Option.bind_some]
      exact hExec
    · rw [hTun, hFlow]
      simp [after, sent, setFlow, stamp, writes, hWritten]

def connectedFlow : Flow :=
  { Flow.spawned ⟨⟨10, 0, 0, 2⟩, ⟨1, 1, 1, 1⟩, 4000, 443, 100, 0, 700⟩ with
    task := .done, reader := .running }

theorem exec_readerEvents_two :
    let first : Read := ⟨[1, 2], 101, true, by decide, by decide⟩
    let second : Read := ⟨[3], 101, true, by decide, by decide⟩
    ∃ s',
      exec step (init.setFlow 0 connectedFlow) (readerEvents 0 [first, second]) = some s' ∧
      s'.tun.map (·.packet.bytes) =
        [(dataPacket connectedFlow.key connectedFlow.seqShared first).bytes,
          (dataPacket connectedFlow.key (connectedFlow.seqShared + 2) second).bytes] := by
  refine exec_readerEvents _ 0 rfl ?_
  decide

end Bridge

-- Holes

namespace Read

def arrives (r : Read) : Bool := r.written && r.data.length ≤ maxPayload

end Read

/-
  The packets that arrive lie one behind the other from the offset `n` on, at the sequence numbers
  of their bytes.
-/
def Tiles (stream : Bytes) (first : UInt32) : Nat → List Written → Prop
| _, [] => True
| n, w :: ws =>
  match arrival w.bytes with
  | none => Tiles stream first n ws
  | some a =>
    w.offset = n ∧ a.seq = first + UInt32.ofNat n ∧ a.data <+: stream.drop n ∧
      Tiles stream first (n + a.data.length) ws

lemma arrival_dataPacket (key : FlowKey) (seq : UInt32) (r : Read) :
  arrival (dataPacket key seq r).bytes = if r.data.length ≤ maxPayload then some ⟨seq, r.data⟩
    else none := arrival_bytes rfl r.fits

variable {key : FlowKey} {stream : Bytes} {first seq : UInt32} {n o : Nat}
variable {r : Read} {reads : List Read}

lemma tiles_writes_of_lost
  (hLost : r.arrives = false) : Tiles stream first n (writes key seq o (r :: reads)) ↔
  Tiles stream first n (writes key (advanced seq r) (o + r.data.length) reads) := by
  cases hWritten : r.written with
  | false => simp [writes, hWritten]
  | true =>
    have hLong : ¬ r.data.length ≤ maxPayload := by simpa [Read.arrives, hWritten] using hLost
    simp [writes, hWritten, Tiles, arrival_dataPacket, hLong]

lemma tiles_writes_of_arrives
  (hArrives : r.arrives) : Tiles stream first n (writes key seq o (r :: reads)) ↔
  o = n ∧ seq = first + UInt32.ofNat n ∧ r.data <+: stream.drop n ∧ Tiles stream first
  (n + r.data.length) (writes key (advanced seq r) (o + r.data.length) reads) := by
  simp only [Read.arrives, Bool.and_eq_true, decide_eq_true_eq] at hArrives
  simp [writes, hArrives.1, Tiles, arrival_dataPacket, hArrives.2]

lemma tiles_behind_hole (reads : List Read) (hHole : n < o) :
  Tiles stream first n (writes key seq o reads) ↔ ∀ r ∈ reads, r.arrives = false := by
  induction reads generalizing seq o with
  | nil => simp [writes, Tiles]
  | cons r _ ih =>
    cases hArrives : r.arrives with
    | false =>
      rw [tiles_writes_of_lost hArrives, ih (Nat.lt_of_lt_of_le hHole (Nat.le_add_right _ _))]
      simp [hArrives]
    | true =>
      rw [tiles_writes_of_arrives hArrives]
      constructor
      · rintro ⟨_, -⟩
        omega
      · intro hNone
        have hFirst := hNone r mem_cons_self
        rw [hArrives] at hFirst
        cases hFirst

def NoHole (reads : List Read) : Prop := reads.Pairwise fun r r' =>
  r'.arrives = true → r.arrives = true

lemma tiles_writes_from (key : FlowKey) (first : UInt32)
  (reads : List Read) (done : Bytes) : Tiles (done ++ streamOf reads) first done.length
  (writes key (first + UInt32.ofNat done.length) done.length reads) ↔ NoHole reads := by
  induction reads generalizing done with
  | nil => simp [writes, Tiles, NoHole]
  | cons r reads ih =>
    have hSeq : advanced (first + UInt32.ofNat done.length) r =
      first + UInt32.ofNat (done ++ r.data).length := by
      rw [advanced, length_append, UInt32.ofNat_add, UInt32.add_assoc]
    have hStream : done ++ streamOf (r :: reads) = (done ++ r.data) ++ streamOf reads := by
      simp [streamOf]
    have hFirst : r.data <+: streamOf (r :: reads) := ⟨streamOf reads, by simp [streamOf]⟩
    rw [NoHole, pairwise_cons]
    cases hArrives : r.arrives with
    | true =>
      have hRest := ih (done ++ r.data)
      rw [length_append, ← length_append, ← hStream, ← hSeq] at hRest
      rw [tiles_writes_of_arrives hArrives, ← length_append, hRest]
      simp [hFirst, NoHole]
    | false =>
      rw [tiles_writes_of_lost hArrives,
        tiles_behind_hole reads (Nat.lt_add_of_pos_right r.nonempty)]
      constructor
      · intro hNone
        refine ⟨?_, ?_⟩
        · intro r' hMem hArrives'
          rw [hNone r' hMem] at hArrives'
          cases hArrives'
        · apply pairwise_of_forall_mem_list
          intro r₁ _ r₂ hMem hArrives₂
          rw [hNone r₂ hMem] at hArrives₂
          cases hArrives₂
      · rintro ⟨hBefore, -⟩ r' hMem
        cases hArrives' : r'.arrives with
        | false => rfl
        | true => exact absurd (hBefore r' hMem hArrives') (by simp)

/-
  Downloads: the data packets that are written tile an initial piece of the stream exactly if no
  chunk arrives behind one whose write failed or whose packet was too long.
-/
theorem tiles_writes_iff
    (key : FlowKey)
    (first : UInt32)
    (reads : List Read) :
    Tiles (streamOf reads) first 0 (writes key first 0 reads) ↔ NoHole reads := by
  simpa using tiles_writes_from key first reads []

def readByte (byte : UInt8) (written : Bool) : Read where
  data := [byte]
  ack := 0
  written := written
  nonempty := Nat.one_pos
  fits := by simp

/- The second of three writes fails. -/
theorem failed_write_leaves_hole : ¬ ∀ (key : FlowKey) (first : UInt32) (reads : List Read),
  Tiles (streamOf reads) first 0 (writes key first 0 reads) := by
  intro hAll
  have hTiles := hAll Flow.blank.key 0 [readByte 65 true, readByte 66 false, readByte 67 true]
  rw [tiles_writes_of_arrives rfl, tiles_writes_of_lost rfl, tiles_writes_of_arrives rfl] at hTiles
  exact absurd hTiles.2.2.2.1 (by decide)

end Kourosh.Tun2socks
