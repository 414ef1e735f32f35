import Kourosh.Ip.Validity
import Kourosh.Tun2socks.Delivery

/-
  The packets that tun2socks writes.

  `send_tcp_ex` and `send_udp` put a length of their own into the header, cut to 16 bits, and sums
  over what they wrote.

  Correctness is proven by:
    * `emitted_valid_iff`
-/

-- Datagrams

namespace Kourosh.Tun2socks

open Checksum
open Ip
open List

def udpChecksum (srcIp dstIp : Ipv4Addr) (segment : Bytes) : UInt16 :=
  let cksum := onesComplementSum (ipToBytes srcIp ++ ipToBytes dstIp ++ [0, 17] ++
    u16ToBe (UInt16.ofNat segment.length) ++ segment)
  if cksum = 0 then 0xFFFF else cksum

/- The arguments of `send_udp`. -/
structure Datagram where
  srcIp : Ipv4Addr
  dstIp : Ipv4Addr
  srcPort : UInt16
  dstPort : UInt16
  payload : Bytes

namespace Datagram

def udpLen (d : Datagram) : Nat := 8 + d.payload.length

def ipLen (d : Datagram) : Nat := 20 + d.udpLen

def ipHeader (d : Datagram) (checksum : UInt16) : Bytes :=
  [0x45, 0x00] ++ (u16ToBe (UInt16.ofNat d.ipLen) ++
    ([0, 0, 0x40, 0x00, 64, 17] ++ (u16ToBe checksum ++ (ipToBytes d.srcIp ++ ipToBytes d.dstIp))))

def segment (d : Datagram) (checksum : UInt16) : Bytes :=
  u16ToBe d.srcPort ++
    (u16ToBe d.dstPort ++ (u16ToBe (UInt16.ofNat d.udpLen) ++ (u16ToBe checksum ++ d.payload)))

/- The buffer that `send_udp` writes. -/
def bytes (d : Datagram) : Bytes :=
  d.ipHeader (onesComplementSum (d.ipHeader 0)) ++
    d.segment (udpChecksum d.srcIp d.dstIp (d.segment 0))

end Datagram

-- The Sums

lemma wordSum_eq (data : Bytes) : wordSum data = words data := by
  induction data using wordSum.induct with
  | case1 | case2 => rfl
  | case3 _ _ _ ih => rw [wordSum, words, ih]

lemma foldCarries_eq (sum : Nat) : foldCarries sum = fold sum := by
  fun_induction foldCarries sum with
  | case1 _ hNone => rw [fold, if_pos hNone]
  | case2 _ hSome ih =>
    rw [ih]
    symm
    rw [fold, if_neg hSome]

lemma toNat_onesComplementSum (data : Bytes) :
  (onesComplementSum data).toNat = complement (words data) := by
  rw [onesComplementSum, foldCarries_eq, wordSum_eq, complement, UInt16.toNat_ofNat']
  omega

lemma words_pseudo (srcIp dstIp : Ipv4Addr) (protocol : UInt8)
  {segment : Bytes} (hFits : segment.length ≤ 65535) : words (ipToBytes srcIp ++
  ipToBytes dstIp ++ [0, protocol] ++ u16ToBe (UInt16.ofNat segment.length) ++ segment) =
  transportSum (ipToBytes srcIp ++ ipToBytes dstIp) protocol.toNat segment := by
  have hLength : (UInt16.ofNat segment.length).toNat = segment.length := by
    rw [UInt16.toNat_ofNat']
    omega
  have hProtocol : words [0, protocol] = protocol.toNat := by simp [words]
  rw [words_append (by simp [ipToBytes, u16ToBe]), words_append (by simp [ipToBytes]),
    words_append (by simp [ipToBytes]), hProtocol,
    words_u16ToBe, hLength, transportSum]

lemma length_addresses (srcIp dstIp : Ipv4Addr) :
  (ipToBytes srcIp ++ ipToBytes dstIp).length = 8 := rfl

-- Segments

namespace TunPacket

variable (p : TunPacket)

lemma length_segment_eq (checksum : UInt16) :
  (p.segment checksum).length = p.tcpHdrLen + p.payload.length := by
  cases hMss : p.withMss with
  | false | true =>
    simp [segment, tcpHdrLen, options, hMss, u16ToBe, u32ToBe]
    omega

lemma allOnes_segment
  (hFits : 20 + (p.segment 0).length ≤ 65535) : AllOnes (transportSum (ipToBytes p.srcIp ++
  ipToBytes p.dstIp) 6 (p.segment (tcpChecksum p.srcIp p.dstIp (p.segment 0)))) := by
  have hSplit : ∀ c, p.segment c = (u16ToBe p.srcPort ++ u16ToBe p.dstPort ++ u32ToBe p.seq ++
    u32ToBe p.ack ++ [UInt8.ofNat (p.tcpHdrLen / 4) <<< 4, p.flags] ++ u16ToBe 65535) ++
    (u16ToBe c ++ ([0, 0] ++ (p.options ++ p.payload))) := by
    intro c
    simp [segment]
  have hChecksum : (tcpChecksum p.srcIp p.dstIp (p.segment 0)).toNat =
    complement (transportSum (ipToBytes p.srcIp ++ ipToBytes p.dstIp) 6 (p.segment 0)) := by
    rw [tcpChecksum, toNat_onesComplementSum]
    exact congrArg complement (words_pseudo p.srcIp p.dstIp 6 (by omega))
  generalize tcpChecksum _ _ _ = c at hChecksum ⊢
  rw [hSplit] at hChecksum ⊢
  exact Ip.allOnes_segment (by simp [u16ToBe, u32ToBe]) hChecksum

/- What `send_tcp_ex` writes is valid if it fits. -/
lemma valid_iff : Valid4 6 p.bytes ↔ p.payload.length + (if p.withMss then 4 else 0) ≤
  65495 := by
  have hHeader : ∀ c, p.ipHeader c =
    plainHeader (UInt16.ofNat p.ipLen) 6 (ipToBytes p.srcIp ++ ipToBytes p.dstIp) c :=
    fun _ => rfl
  have hLength := length_segment_eq p
  rw [bytes, hHeader, valid4_plain (length_addresses _ _) (by rw [toNat_onesComplementSum, hHeader])
    (by rw [hLength]; rfl), hLength]
  constructor
  · intro hValid
    rw [tcpHdrLen] at hValid
    omega
  · intro hFits
    rw [tcpHdrLen]
    refine ⟨by omega, p.allOnes_segment ?_⟩
    rw [hLength, tcpHdrLen]
    omega

end TunPacket

namespace Datagram

section

variable (d : Datagram) (checksum : UInt16)

lemma segment_eq : d.segment checksum = plainDatagram d.srcPort d.dstPort d.payload checksum := rfl

lemma length_segment : (d.segment checksum).length = d.udpLen := by
  rw [segment_eq, length_plainDatagram]
  rfl

end

lemma allOnes_segment (d : Datagram)
  (hFits : 20 + (d.segment 0).length ≤ 65535) : AllOnes (transportSum (ipToBytes d.srcIp ++
  ipToBytes d.dstIp) 17 (d.segment (udpChecksum d.srcIp d.dstIp (d.segment 0)))) := by
  have hChecksum := toNat_onesComplementSum (ipToBytes d.srcIp ++
    ipToBytes d.dstIp ++ [0, 17] ++ u16ToBe (UInt16.ofNat (d.segment 0).length) ++ d.segment 0)
  rw [words_pseudo d.srcIp d.dstIp 17 (by omega)] at hChecksum
  rw [udpChecksum]
  exact allOnes_plainDatagram hChecksum

lemma udpChecksum_ne_zero (srcIp dstIp : Ipv4Addr) (segment : Bytes) :
  udpChecksum srcIp dstIp segment ≠ 0 := by
  simp only [udpChecksum]
  split
  next => decide
  next hNonzero => exact hNonzero

/- What `send_udp` writes is valid if it fits. -/
lemma valid_iff (d : Datagram) : Valid4 17 d.bytes ∧
  ValidDatagram (d.bytes.drop (headerLength d.bytes)) ↔ d.payload.length ≤ 65507 := by
  have hHeader : ∀ c, d.ipHeader c =
    plainHeader (UInt16.ofNat d.ipLen) 17 (ipToBytes d.srcIp ++ ipToBytes d.dstIp) c :=
    fun _ => rfl
  have hLength := d.length_segment
  have hIhl : headerLength d.bytes = 20 := by
    have hFirst : byteAt d.bytes 0 = 0x45 := rfl
    rw [headerLength, hFirst]
    rfl
  have hDrop : d.bytes.drop 20 = d.segment (udpChecksum d.srcIp d.dstIp (d.segment 0)) :=
    drop_left' (by
      rw [hHeader]
      exact length_plainHeader (length_addresses _ _))
  have hValid : Valid4 17 d.bytes ↔ 20 + d.udpLen ≤ 65535 := by
    rw [bytes, hHeader, valid4_plain (length_addresses _ _)
      (by rw [toNat_onesComplementSum, hHeader])
      (by rw [hLength]; rfl), hLength]
    constructor
    · exact fun hBoth => hBoth.1
    · intro hFits
      refine ⟨hFits, d.allOnes_segment ?_⟩
      rw [hLength]
      exact hFits
  rw [hValid, hIhl, hDrop, udpLen, segment_eq, validDatagram_plain (udpChecksum_ne_zero _ _ _)]
  omega

end Datagram

-- What Is Written

/- The packets of the two functions. -/
inductive Emitted where
  | tcp (p : TunPacket) (hRead : p.payload.length ≤ 65535)
  | udp (d : Datagram) (hAnswer : d.payload.length ≤ 65535)

namespace Emitted

def Valid : Emitted → Prop
| tcp p _ => Valid4 6 p.bytes
| udp d _ => Valid4 17 d.bytes ∧ ValidDatagram (d.bytes.drop (headerLength d.bytes))

def Fits : Emitted → Prop
| tcp p _ => p.payload.length + (if p.withMss then 4 else 0) ≤ 65495
| udp d _ => d.payload.length ≤ 65507

end Emitted

/- A packet is well formed exactly if its payload leaves room for the headers. -/
theorem emitted_valid_iff
    (e : Emitted) :
    e.Valid ↔ e.Fits := by
  cases e with
  | tcp p => exact p.valid_iff
  | udp d => exact d.valid_iff

/- A read that fills the buffer. -/
theorem full_read_is_not_valid : ¬ ∀ e : Emitted, e.Valid := by
  intro hAll
  have hLong : ∃ data : Bytes, data.length = 65535 := ⟨replicate 65535 0, length_replicate⟩
  rcases hLong with ⟨data, hData⟩
  have hValid := hAll (.tcp (Flow.blank.key.toApp 0 0 0x18 data false) (Nat.le_of_eq hData))
  rw [Emitted.Valid, TunPacket.valid_iff] at hValid
  simp only [FlowKey.toApp, hData] at hValid
  omega

end Kourosh.Tun2socks
