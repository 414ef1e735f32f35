import Kourosh.Socks.Connect
import Kourosh.Tun.Replies

/-
  The probe for the address a tunnel exits at.

  The probe is a DNS query for a TXT record, in a datagram and a packet of its own.

  Correctness is proven by:
    * `exit_ip_packets`
-/

-- Queries

namespace Kourosh.Tun

open Checksum Checked UInt16
open Ip
open Socks (octets lossyText)
open List Option

def dnsPort : UInt16 := 53

def resolver : Ipv4Addr := ⟨1, 1, 1, 1⟩

def qtypeTxt : UInt16 := 16

def qclassCh : UInt16 := 3

def whoamiName : Bytes := ascii "whoami.cloudflare"

def buildQuery (id : UInt16) (name : Bytes) (qtype qclass : UInt16) : Bytes :=
  u16ToBe id ++ [0x01, 0x00] ++ u16ToBe 1 ++ [0, 0, 0, 0, 0, 0] ++
    ((labels name).flatMap fun label =>
      if label.isEmpty then []
      else UInt8.ofNat (min label.length 63) :: label.take (min label.length 63)) ++
    0 :: (u16ToBe qtype ++ u16ToBe qclass)

/- The sums are taken while their own fields are zero. -/
def buildUdpIpv4 (ident : UInt16) (src dst : Ipv4Addr) (sport dport : UInt16)
  (payload : Bytes) : Bytes :=
  let udpLen := 8 + payload.length
  let ends := octets (.v4 src) ++ octets (.v4 dst)
  let header := header4 (UInt16.ofNat (20 + udpLen)) ident 0 17 ends
  let ipCsum := foldChecksum (onesComplementSum (header 0) 0)
  let udp := plainDatagram sport dport payload
  let sum := onesComplementSum ends 0 + 17 + UInt32.ofNat udpLen
  let udpCsum := foldChecksum (onesComplementSum (udp 0) sum)
  header ipCsum ++ udp (if udpCsum = 0 then 0xffff else udpCsum)

structure Probe where
  packet : Bytes
  sport : UInt16
  id : UInt16
  name : Bytes
deriving DecidableEq

def Probe.whoami (src : Ipv4Addr) (id port ident : UInt16) : Probe :=
  let sport := 20000 + port % 40000
  { packet := buildUdpIpv4 ident src resolver sport dnsPort
      (buildQuery id whoamiName qtypeTxt qclassCh)
    sport
    id
    name := whoamiName }

section Building

variable (ident : UInt16) (src dst : Ipv4Addr) (sport dport : UInt16)
variable {payload : Bytes} (hFits : payload.length ≤ 65507)

include hFits

lemma valid_buildUdpIpv4 : Valid4 17 (buildUdpIpv4 ident src dst sport dport payload) ∧
  ValidDatagram ((buildUdpIpv4 ident src dst sport dport payload).drop 20) := by
  have hEnds : (octets (.v4 src) ++ octets (.v4 dst)).length = 8 := rfl
  have hLength := length_replyDatagram (octets (.v4 src) ++ octets (.v4 dst)) sport dport payload
  unfold buildUdpIpv4
  generalize octets (.v4 src) ++ octets (.v4 dst) = ends at hEnds hLength
  constructor
  · change Valid4 17 (header4 _ ident 0 17 ends _ ++ replyDatagram ends sport dport payload)
    refine (valid4_header4 hEnds ?_ (by rw [hLength])).mpr ⟨by omega, allOnes_replyDatagram ?_ ?_⟩
    · have hWords := words_le (header4 (ofNat (20 + (8 + payload.length))) ident 0 17 ends 0)
      rw [length_header4 hEnds] at hWords
      rw [toNat_foldChecksum, toNat_onesComplementSum, UInt32.toNat_zero,
        Nat.zero_add, Nat.mod_eq_of_lt]
      omega
    all_goals omega
  · rw [drop_left' (length_header4 hEnds)]
    exact validDatagram_replyDatagram.mpr (by omega)

end Building

-- Reading Replies

namespace Checked

def udpPayload (packet : Bytes) (src : Ipv4Addr) (sport dport : UInt16) : Option (Option Bytes) :=
  if packet.length < 20 then some none
  else do
    let first : UInt8 ← packet[0]?
    let ihl := (first &&& 0x0f).toNat * 4
    let protocol ← packet[9]?
    if first >>> 4 ≠ 4 then some none
    else if ihl < 20 ∨ packet.length < ihl + 8 ∨ protocol ≠ 17 then some none
    else do
      let fragment ← u16At packet 6
      let a ← packet[12]?
      let b ← packet[13]?
      let c ← packet[14]?
      let d ← packet[15]?
      if fragment &&& 0x1fff ≠ 0 then some none
      else if (⟨a, b, c, d⟩ : Ipv4Addr) ≠ src then some none
      else do
        let udp ← Routing.sliceFrom packet ihl
        let from' ← u16At udp 0
        let to' ← u16At udp 2
        let len ← u16At udp 4
        if from' ≠ sport ∨ to' ≠ dport then some none
        else if len.toNat < 8 ∨ len.toNat > udp.length then some none
        else (Routing.slice udp 8 (len.toNat - 8)).map some

def walkLabels (msg : Bytes) : List Bytes → Nat → Option (Option Nat)
| [], pos => some (some pos)
| label :: rest, pos =>
  if label.isEmpty then walkLabels msg rest pos
  else
    match msg[pos]? with
    | none => some none
    | some len =>
      if len.toNat ≠ label.length then some none
      else if pos + 1 + len.toNat > msg.length then some none
      else do
        let written ← Routing.slice msg (pos + 1) len.toNat
        if eqIgnoreAsciiCase written label then walkLabels msg rest (pos + 1 + len.toNat)
        else some none

def questionMatches (msg : Bytes) (id : UInt16) (name : Bytes)
  (qtype qclass : UInt16) : Option Bool :=
  if msg.length < 12 then some false
  else do
    let found ← u16At msg 0
    let flags ← msg[2]?
    let count ← u16At msg 4
    if found ≠ id then some false
    else if flags &&& 0x80 = 0 then some false
    else if count ≠ 1 then some false
    else do
      match ← walkLabels msg (labels name) 12 with
      | none => some false
      | some pos =>
        if msg[pos]? ≠ some 0 then some false
        else if pos + 1 + 4 > msg.length then some false
        else do
          let type ← u16At msg (pos + 1)
          let class' ← u16At msg (pos + 3)
          some (type = qtype && class' = qclass)

end Checked

def skipName (buf : Bytes) (pos : Nat) : Option Nat :=
  match hByte : buf[pos]? with
  | none => none
  | some len =>
    if len &&& 0xc0 = 0xc0 then if pos + 2 ≤ buf.length then some (pos + 2) else none
    else if len = 0 then if pos + 1 ≤ buf.length then some (pos + 1) else none
    else if pos + (1 + len.toNat) > buf.length then none
    else skipName buf (pos + (1 + len.toNat))
termination_by buf.length - pos
decreasing_by
  omega

def skipQuestions (msg : Bytes) : Nat → Nat → Option Nat
| 0, pos => some pos
| count + 1, pos =>
  match skipName msg pos with
  | none => none
  | some pos => skipQuestions msg count (pos + 4)

namespace Checked

def strings (msg : Bytes) (stop p : Nat) (out : List Char) : Option (Option (List Char)) :=
  if p < stop then
    match msg[p]? with
    | none => none
    | some len =>
      if p + 1 + len.toNat > stop then some none
      else
        match Routing.slice msg (p + 1) len.toNat with
        | none => none
        | some text => strings msg stop (p + 1 + len.toNat) (out ++ lossyText text)
  else some (some out)
termination_by stop - p

def answers (msg : Bytes) : Nat → Nat → Option (Option (List Char))
| 0, _ => some none
| count + 1, pos =>
  match skipName msg pos with
  | none => some none
  | some pos =>
    if pos + 10 > msg.length then some none
    else do
      let rtype ← u16At msg pos
      let rdlen ← u16At msg (pos + 8)
      let stop := pos + 10 + rdlen.toNat
      if stop > msg.length then some none
      else if rtype = qtypeTxt then
        (strings msg stop (pos + 10) []).map fun out => out.filter fun text => !text.isEmpty
      else answers msg count stop

def firstTxtRecord (msg : Bytes) : Option (Option (List Char)) :=
  if msg.length < 12 then some none
  else do
    let qd ← u16At msg 4
    let an ← u16At msg 6
    match skipQuestions msg qd.toNat 12 with
    | none => some none
    | some pos => answers msg an.toNat pos

end Checked

namespace Probe

def matchesChecked (probe : Probe) (packet : Bytes) : Option Bool := do
  match ← Checked.udpPayload packet resolver dnsPort probe.sport with
  | none => some false
  | some payload => Checked.questionMatches payload probe.id probe.name qtypeTxt qclassCh

def readChecked (probe : Probe) (packet : Bytes) : Option (Option Ipv4Addr) := do
  match ← Checked.udpPayload packet resolver dnsPort probe.sport with
  | none => some none
  | some payload =>
    match ← Checked.firstTxtRecord payload with
    | none => some none
    | some text => some (Routing.parseIpv4 (Text.trim text))

def matchesPacket (probe : Probe) (packet : Bytes) : Bool :=
  (probe.matchesChecked packet).getD false

def read (probe : Probe) (packet : Bytes) : Option Ipv4Addr := (probe.readChecked packet).getD none

end Probe

-- No Read Is Out Of Range

namespace Checked

variable {buf packet msg : Bytes} {i pos stop : Nat}

section Reads

variable {α : Type} {f : UInt8 → Option α} {g : UInt16 → Option α}
variable {x : α} {rest : Option α} {c : Prop} [Decidable c]

lemma isSome_guard (hRest : ¬ c → rest.isSome) : (if c then some x else rest).isSome := by
  split
  · rfl
  · exact hRest ‹_›

lemma isSome_index (hLt : i < buf.length) (hRest : (f (byteAt buf i)).isSome) :
  (buf[i]? >>= f).isSome := by
  rw [getElem?_eq_byteAt hLt]
  exact hRest

lemma isSome_u16At (hLt : i + 1 < buf.length)
  (hRest : (g (Kourosh.u16At buf i)).isSome) : (u16At buf i >>= g).isSome := by
  rw [u16At_eq hLt]
  exact hRest

end Reads

lemma isSome_udpPayload (packet : Bytes) (src : Ipv4Addr)
  (sport dport : UInt16) : (udpPayload packet src sport dport).isSome := by
  refine isSome_guard fun hLong => ?_
  refine isSome_index (by omega) ?_
  refine isSome_index (by omega) ?_
  refine isSome_guard fun _ => ?_
  refine isSome_guard fun hHeader => ?_
  refine isSome_u16At (by omega) ?_
  refine isSome_index (by omega) ?_
  refine isSome_index (by omega) ?_
  refine isSome_index (by omega) ?_
  refine isSome_index (by omega) ?_
  refine isSome_guard fun _ => ?_
  refine isSome_guard fun _ => ?_
  have hLength : 8 ≤ (packet.drop ((byteAt packet 0 &&& 0x0f).toNat * 4)).length := by
    rw [length_drop]
    omega
  rw [Routing.sliceFrom, if_pos (by omega)]
  refine isSome_u16At (by omega) ?_
  refine isSome_u16At (by omega) ?_
  refine isSome_u16At (by omega) ?_
  refine isSome_guard fun _ => ?_
  refine isSome_guard fun hInside => ?_
  rw [Routing.slice, if_pos (by omega)]
  rfl

variable (msg : Bytes)

lemma walkLabels_eq (names : List Bytes) (pos : Nat) :
  walkLabels msg names pos = some (Dns.walkLabels msg names pos) := by
  induction names generalizing pos with
  | nil => rfl
  | cons _ _ ih =>
    unfold walkLabels Dns.walkLabels
    split
    · exact ih pos
    · cases msg[pos]? with
      | none => rfl
      | some =>
        simp only
        split
        · rfl
        · split
          · rfl
          · rw [Routing.slice, if_pos (by omega), bind_eq_bind, bind_some]
            split
            · exact ih _
            · rfl

/- The test of `dns::response_matches`, and of the class. -/
lemma questionMatches_eq (id : UInt16) (name : Bytes) (qtype qclass : UInt16) :
  questionMatches msg id name qtype qclass = some (Dns.responseMatches msg id name qtype &&
  (Dns.walkLabels msg (labels name) 12).any fun pos => Kourosh.u16At msg (pos + 3) = qclass) := by
  unfold questionMatches Dns.responseMatches Dns.headerMatches
  split
  · rfl
  · rw [u16At_eq (by omega), u16At_eq (by omega), getElem?_eq_byteAt (by omega)]
    simp only [bind_eq_bind, bind_some, walkLabels_eq]
    split
    · rfl
    · split
      · rfl
      · split
        next hCount =>
          rw [if_neg (by simp [hCount])]
          rfl
        next hCount =>
          rw [if_pos (by simpa using hCount)]
          cases Dns.walkLabels msg (labels name) 12 with
          | none => rfl
          | some =>
            simp only
            split
            · rfl
            · split
              · rfl
              · rw [u16At_eq (by omega), u16At_eq (by omega)]
                rfl

lemma isSome_strings (hStop : stop ≤ msg.length)
  (p : Nat) (out : List Char) : (strings msg stop p out).isSome := by
  fun_induction strings msg stop p out with
  | case1 _ _ _ hByte =>
    rw [getElem?_eq_byteAt (by omega)] at hByte
    cases hByte
  | case2 | case5 => rfl
  | case3 _ _ _ _ _ _ hSlice =>
    rw [Routing.slice, if_pos (by omega)] at hSlice
    cases hSlice
  | case4 _ _ _ _ _ _ _ _ ih => exact ih

lemma isSome_answers (count pos : Nat) : (answers msg count pos).isSome := by
  induction count generalizing pos with
  | zero => rfl
  | succ _ ih =>
    unfold answers
    cases skipName msg pos with
    | none => rfl
    | some =>
      refine isSome_guard fun hRoom => ?_
      refine isSome_u16At (by omega) ?_
      refine isSome_u16At (by omega) ?_
      refine isSome_guard fun hInside => ?_
      split
      · rw [isSome_map]
        exact isSome_strings msg (by omega) _ []
      · exact ih _

lemma isSome_firstTxtRecord : (firstTxtRecord msg).isSome := by
  refine isSome_guard fun hLong => ?_
  refine isSome_u16At (by omega) ?_
  refine isSome_u16At (by omega) ?_
  cases skipQuestions msg (Kourosh.u16At msg 4).toNat 12 with
  | none => rfl
  | some pos => exact isSome_answers msg _ pos

end Checked

namespace Probe

variable (probe : Probe) (packet : Bytes)

lemma exists_udpPayload : ∃ payload,
  udpPayload packet resolver dnsPort probe.sport = some payload :=
  isSome_iff_exists.mp (isSome_udpPayload packet _ _ _)

lemma matchesChecked_eq : probe.matchesChecked packet = some (probe.matchesPacket packet) := by
  rcases probe.exists_udpPayload packet with ⟨payload, hPayload⟩
  rw [matchesPacket, matchesChecked, hPayload]
  cases payload with
  | none => rfl
  | some => simp [questionMatches_eq]

lemma readChecked_eq : probe.readChecked packet = some (probe.read packet) := by
  rcases probe.exists_udpPayload packet with ⟨payload, hPayload⟩
  rw [read, readChecked, hPayload]
  cases payload with
  | none => rfl
  | some payload =>
    rcases isSome_iff_exists.mp (isSome_firstTxtRecord payload) with ⟨text, hText⟩
    simp only [bind_eq_bind, bind_some, hText]
    cases text with
    | none | some => rfl

end Probe

-- Datagrams And Questions

lemma udpPayload_of_fields {packet payload : Bytes}
  {src : Ipv4Addr} {sport dport sum : UInt16} (hFirst : byteAt packet 0 = 0x45)
  (hProtocol : byteAt packet 9 = 17) (hFragment : u16At packet 6 = 0)
  (hSrc : ⟨byteAt packet 12, byteAt packet 13, byteAt packet 14, byteAt packet 15⟩ = src)
  (hDrop : packet.drop 20 = plainDatagram sport dport payload sum)
  (hFits : payload.length ≤ 65507) :
  udpPayload packet src sport dport = some (some payload) := by
  have hDatagram :
    (plainDatagram sport dport payload sum).length = 8 + payload.length := length_plainDatagram
  have hSize : packet.length = 28 + payload.length := by
    have hBehind := congrArg List.length hDrop
    rw [length_drop, hDatagram] at hBehind
    omega
  have hIhl : (0x45 &&& 0x0f : UInt8).toNat * 4 = 20 := by decide
  have hLen : (ofNat (8 + payload.length)).toNat = 8 + payload.length := by
    rw [toNat_ofNat']
    omega
  have hPorts := @u16At_plainDatagram sport dport sum payload
  have hField : u16At (plainDatagram sport dport payload sum) 4 =
    ofNat (8 + payload.length) := u16FromBe_toBe _
  have hUdp : Routing.sliceFrom packet 20 = some (plainDatagram sport dport payload sum) := by
    rw [Routing.sliceFrom, if_pos (by omega), hDrop]
  have hPayload : Routing.slice (plainDatagram sport dport payload sum) 8
    (8 + payload.length - 8) = some payload := by
    rw [Routing.slice, if_pos (by omega), Nat.add_sub_cancel_left]
    exact congrArg some (take_of_length_le (Nat.le_refl _))
  rw [udpPayload, if_neg (by omega), getElem?_eq_byteAt (by omega),
    getElem?_eq_byteAt (by omega), hFirst, hProtocol]
  simp only [bind_eq_bind, bind_some, hIhl]
  have hHeader : ¬ (20 < 20 ∨ packet.length < 20 + 8 ∨ (17 : UInt8) ≠ 17) := by
    simp
    omega
  rw [if_neg (by decide), if_neg hHeader, u16At_eq (by omega),
    getElem?_eq_byteAt (by omega), getElem?_eq_byteAt (by omega),
    getElem?_eq_byteAt (by omega), getElem?_eq_byteAt (by omega), hFragment]
  simp only [bind_some, hSrc, hUdp]
  rw [if_neg (by decide), if_neg (not_not.mpr rfl), u16At_eq (by omega),
    u16At_eq (by omega), u16At_eq (by omega), hPorts.1, hPorts.2,
    hField]
  simp only [bind_some, hLen]
  rw [if_neg (by simp), if_neg (by omega), hPayload]
  rfl

def Answers (msg : Bytes) (id : UInt16) (name : Bytes) (qtype qclass : UInt16) : Prop :=
  Dns.IsReply msg id ∧ ∃ written rest, Dns.SameName written (labels name) ∧
    msg.drop 12 = Dns.wireName written ++ 0 :: (u16ToBe qtype ++ (u16ToBe qclass ++ rest))

lemma answers_of_questionMatches {msg name : Bytes} {id qtype qclass : UInt16}
  (hName : Dns.Hostname name)
  (hMatch : questionMatches msg id name qtype qclass = some true) :
  Answers msg id name qtype qclass := by
  rw [questionMatches_eq, some.injEq, Bool.and_eq_true,
    Dns.responseMatches_iff hName] at hMatch
  rcases hMatch with ⟨⟨hReply, written, bytes, rest, hSame, hTwo, hDrop⟩, hClass⟩
  have hWalk := (Dns.walkLabels_name hName).mpr ⟨written, _, hSame, hDrop⟩
  rw [hWalk, any_some, decide_eq_true_eq] at hClass
  have hBehind := Dns.drop_nameEnd hSame hDrop
  have hField : u16At msg (Dns.nameEnd name + 3) = u16At (msg.drop (Dns.nameEnd name)) 3 := by
    rw [u16At, u16At, byteAt_drop, byteAt_drop]
  rcases length_eq_two.mp hTwo with ⟨hi, lo, rfl⟩
  rw [hField, hBehind] at hClass
  have hBytes : u16ToBe qclass = [hi, lo] := u16FromBe_eq_iff.mp hClass
  refine ⟨hReply, written, rest, hSame, ?_⟩
  rw [hDrop, hBytes]

-- Messages

inductive WireName : Bytes → Prop where
  | root : WireName [0]
  | pointer {mark low : UInt8} (hMark : mark &&& 0xc0 = 0xc0) : WireName [mark, low]
  | label {text rest : Bytes} (hText : 0 < text.length ∧ text.length ≤ 63)
    (hRest : WireName rest) : WireName (UInt8.ofNat text.length :: (text ++ rest))

structure Record where
  name : Bytes
  rtype : UInt16
  middle : Bytes
  rdata : Bytes
  name_wire : WireName name
  middle_length : middle.length = 6
  rdata_length : rdata.length < 65536

def Record.bytes (r : Record) : Bytes :=
  r.name ++ (u16ToBe r.rtype ++ (r.middle ++ (u16ToBe (UInt16.ofNat r.rdata.length) ++ r.rdata)))

structure Message where
  front : Bytes
  counts : Bytes
  questions : List Bytes
  answers : List Record
  more : Bytes
  front_length : front.length = 4
  counts_length : counts.length = 4
  questions_wire : ∀ question ∈ questions, ∃ name tail, WireName name ∧
    tail.length = 4 ∧ question = name ++ tail
  questions_lt : questions.length < 65536
  answers_lt : answers.length < 65536

def Message.bytes (m : Message) : Bytes :=
  m.front ++
    (u16ToBe (UInt16.ofNat m.questions.length) ++ (u16ToBe (UInt16.ofNat m.answers.length) ++
    (m.counts ++ (m.questions.flatten ++ (m.answers.flatMap Record.bytes ++ m.more)))))

def Message.txt (m : Message) : Option Record := m.answers.find? fun r => r.rtype = qtypeTxt

variable {buf name rest : Bytes} {pos : Nat}

lemma drop_add_of_drop {x y : Bytes} (hDrop : buf.drop pos = x ++ y) :
  buf.drop (pos + x.length) = y := by rw [← drop_drop, hDrop, drop_left]

lemma skipName_of_byte {len : UInt8} (hByte : buf[pos]? = some len) : skipName buf pos =
  if len &&& 0xc0 = 0xc0 then if pos + 2 ≤ buf.length then some (pos + 2) else none
  else if len = 0 then if pos + 1 ≤ buf.length then some (pos + 1) else none
  else if pos + (1 + len.toNat) > buf.length then none
  else skipName buf (pos + (1 + len.toNat)) := by
  rw [skipName]
  split
  next hNone =>
    rw [hByte] at hNone
    cases hNone
  next hSome =>
    rw [hByte] at hSome
    cases hSome
    rfl

lemma skipName_wireName (hName : WireName name)
  (hDrop : buf.drop pos = name ++ rest) : skipName buf pos = some (pos + name.length) := by
  have hByte : buf[pos]? = (name ++ rest).head? := by rw [← hDrop, head?_drop]
  have hLength := congrArg List.length hDrop
  rw [length_drop, length_append] at hLength
  induction hName generalizing pos with
  | root =>
    rw [length_singleton] at hLength ⊢
    rw [skipName_of_byte hByte, if_neg (by decide), if_pos rfl, if_pos (by omega)]
  | pointer hMark =>
    simp only [length_cons, length_nil] at hLength ⊢
    rw [skipName_of_byte hByte, if_pos hMark, if_pos (by omega)]
  | @label text _ _ _ ih =>
    have hNat : (UInt8.ofNat text.length).toNat = text.length := by
      rw [UInt8.toNat_ofNat']
      omega
    have hSmall : ∀ n : Fin 64, ¬ UInt8.ofNat n &&& 0xc0 = 0xc0 := by decide +kernel
    have hZero : UInt8.ofNat text.length ≠ 0 := by
      intro hEq
      rw [hEq] at hNat
      have hPos : (0 : UInt8).toNat = 0 := rfl
      omega
    rw [cons_append, append_assoc] at hDrop
    have hBehind := drop_add_of_drop (x := _ :: text) hDrop
    simp only [length_cons, length_append] at hLength hBehind ⊢
    have hRestLength := congrArg List.length hBehind
    rw [length_drop, length_append] at hRestLength
    rw [skipName_of_byte hByte, if_neg (hSmall ⟨text.length, by omega⟩),
      if_neg hZero, hNat, if_neg (by omega), Nat.add_comm 1,
      ih hBehind (by rw [← hBehind, head?_drop]) hRestLength]
    exact congrArg some (by omega)

lemma skipQuestions_wire
  {questions : List Bytes} (hQuestions : ∀ question ∈ questions, ∃ name tail, WireName name ∧
  tail.length = 4 ∧ question = name ++ tail) (hDrop : buf.drop pos = questions.flatten ++ rest) :
  skipQuestions buf questions.length pos = some (pos + questions.flatten.length) := by
  induction questions generalizing pos with
  | nil => rfl
  | cons question _ ih =>
    rcases hQuestions question mem_cons_self with ⟨name, tail, hName, hTail, rfl⟩
    rw [flatten_cons, append_assoc] at hDrop
    have hNext := drop_add_of_drop hDrop
    rw [append_assoc] at hDrop
    have hSkip := skipName_wireName hName hDrop
    rw [length_append, hTail, ← Nat.add_assoc] at hNext
    rw [length_cons, skipQuestions, hSkip]
    simp only
    rw [ih (fun q hMem => hQuestions q (mem_cons_of_mem _ hMem)) hNext,
      flatten_cons, length_append, length_append, hTail]
    exact congrArg some (by omega)

lemma strings_wireName {texts : List Bytes} {stop : Nat} {out : List Char}
  (hTexts : ∀ text ∈ texts, text.length ≤ 255) (hDrop : buf.drop pos = Dns.wireName texts ++ rest)
  (hStop : stop = pos + (Dns.wireName texts).length) :
  strings buf stop pos out = some (some (out ++ texts.flatMap lossyText)) := by
  induction texts generalizing pos out with
  | nil =>
    rw [strings, if_neg (by simp [hStop, Dns.wireName])]
    simp
  | cons text texts ih =>
    have hText := hTexts text mem_cons_self
    have hNat : (UInt8.ofNat text.length).toNat = text.length := by
      rw [UInt8.toNat_ofNat']
      omega
    have hWire :
      Dns.wireName (text :: texts) = UInt8.ofNat text.length :: text ++ Dns.wireName texts := rfl
    rw [hWire, append_assoc, cons_append] at hDrop
    have hByte : buf[pos]? = some (UInt8.ofNat text.length) := by
      rw [← head?_drop, hDrop]
      rfl
    have hNext := drop_add_of_drop (x := _ :: text) hDrop
    have hText : buf.drop (pos + 1) = text ++ (Dns.wireName texts ++ rest) :=
      drop_add_of_drop (x := [_]) hDrop
    have hLength := congrArg List.length hText
    rw [length_drop, length_append] at hLength
    have hLt := (List.getElem?_eq_some_iff.mp hByte).1
    rw [hWire, length_append, length_cons] at hStop
    rw [length_cons] at hNext
    have hSlice : Routing.slice buf (pos + 1) text.length = some text := by
      rw [Routing.slice, if_pos (by omega), hText, take_left]
    rw [strings, if_pos (by omega), hByte]
    simp only [hNat, hSlice]
    rw [if_neg (by omega), Nat.add_assoc, Nat.add_comm 1,
      ih (fun t hMem => hTexts t (mem_cons_of_mem _ hMem)) hNext
        (by omega), flatMap_cons, append_assoc]

lemma u16At_of_drop {v : UInt16} (hDrop : buf.drop pos = u16ToBe v ++ rest) :
  u16At buf pos = v := by
  have hField : u16At buf pos = u16At (buf.drop pos) 0 := by
    rw [u16At, u16At, byteAt_drop, byteAt_drop]
    rfl
  rw [hField, hDrop]
  exact u16FromBe_toBe v

lemma Record.length_bytes (r : Record) : r.bytes.length = r.name.length + 10 + r.rdata.length := by
  simp only [bytes, length_append, u16ToBe, length_cons, length_nil, r.middle_length]
  omega

lemma Record.drop_rdata {r : Record} (hDrop : buf.drop pos = r.bytes ++ rest) :
  buf.drop (pos + (r.name.length + 10)) = r.rdata ++ rest := by
  have hFront : r.bytes ++ rest = (r.name ++ (u16ToBe r.rtype ++ (r.middle ++
    u16ToBe (ofNat r.rdata.length)))) ++ (r.rdata ++ rest) := by simp [bytes]
  rw [← drop_drop, hDrop, hFront]
  refine drop_left' ?_
  simp [u16ToBe, r.middle_length]

lemma answers_record (r : Record) (count : Nat) (hDrop : buf.drop pos = r.bytes ++ rest) :
  answers buf (count + 1) pos = if r.rtype = qtypeTxt then
    (strings buf (pos + r.bytes.length) (pos + (r.name.length + 10)) []).map fun out =>
      out.filter fun text => !text.isEmpty
    else answers buf count (pos + r.bytes.length) := by
  have hLen : (ofNat r.rdata.length).toNat = r.rdata.length := by
    rw [toNat_ofNat', Nat.mod_eq_of_lt r.rdata_length]
  have hBytes := r.length_bytes
  have hRoom := congrArg List.length hDrop
  rw [length_drop, length_append] at hRoom
  rw [Record.bytes] at hDrop
  simp only [append_assoc] at hDrop
  have hSkip := skipName_wireName r.name_wire hDrop
  have hType := drop_add_of_drop hDrop
  have hBehind := drop_add_of_drop (drop_add_of_drop hType)
  have hTwo : (u16ToBe r.rtype).length = 2 := rfl
  rw [hTwo, r.middle_length] at hBehind
  have hStop : pos + r.name.length + 10 + r.rdata.length = pos + r.bytes.length := by omega
  rw [answers, hSkip]
  simp only
  rw [if_neg (by omega), u16At_eq (by omega), u16At_eq (by omega),
    u16At_of_drop hType, u16At_of_drop hBehind]
  simp only [bind_eq_bind, bind_some, hLen, hStop]
  rw [if_neg (by omega), Nat.add_assoc]

lemma answers_records {records : List Record}
  {texts : List Bytes} (hDrop : buf.drop pos = records.flatMap Record.bytes ++ rest)
  (hTexts : ∀ r, records.find? (fun r => r.rtype = qtypeTxt) =
  some r → r.rdata = Dns.wireName texts ∧ ∀ text ∈ texts, text.length ≤ 255) :
  answers buf records.length pos = some (((records.find? fun r => r.rtype =
  qtypeTxt).map fun _ => texts.flatMap lossyText).filter fun text => !text.isEmpty) := by
  induction records generalizing pos with
  | nil => rfl
  | cons r records ih =>
    rw [flatMap_cons, append_assoc] at hDrop
    have hNext := drop_add_of_drop hDrop
    rw [length_cons, answers_record r _ hDrop]
    by_cases hTxt : r.rtype = qtypeTxt
    · have hFind : (r :: records).find? (fun r => r.rtype = qtypeTxt) =
        some r := find?_cons_of_pos (by simpa using hTxt)
      rcases hTexts r hFind with ⟨hData, hShort⟩
      have hBefore := Record.drop_rdata hDrop
      have hBytes := r.length_bytes
      rw [hData] at hBefore hBytes
      rw [if_pos hTxt, hFind, strings_wireName hShort hBefore (by omega)]
      rfl
    · have hFind : (r :: records).find? (fun r => r.rtype = qtypeTxt) =
        records.find? fun r => r.rtype = qtypeTxt :=
        find?_cons_of_neg (by simpa using hTxt)
      rw [hFind] at hTexts ⊢
      rw [if_neg hTxt]
      exact ih hNext hTexts

lemma firstTxtRecord_message
  (m : Message) {texts : List Bytes} (hTexts : ∀ r, m.txt = some r → r.rdata =
  Dns.wireName texts ∧ ∀ text ∈ texts, text.length ≤ 255) : firstTxtRecord m.bytes =
  some ((m.txt.map fun _ => texts.flatMap lossyText).filter fun text => !text.isEmpty) := by
  have hQuestions : (ofNat m.questions.length).toNat = m.questions.length := by
    rw [toNat_ofNat', Nat.mod_eq_of_lt m.questions_lt]
  have hAnswers : (ofNat m.answers.length).toNat = m.answers.length := by
    rw [toNat_ofNat', Nat.mod_eq_of_lt m.answers_lt]
  have hLong : 12 ≤ m.bytes.length := by
    simp only [Message.bytes, length_append, u16ToBe, length_cons,
      length_nil, m.front_length, m.counts_length]
    omega
  have hQd : m.bytes.drop 4 = _ := drop_left' m.front_length
  have hAn : m.bytes.drop 6 = _ := drop_add_of_drop hQd
  have hCounts : m.bytes.drop 8 = _ := drop_add_of_drop hAn
  have hBody := drop_add_of_drop hCounts
  rw [m.counts_length] at hBody
  have hRecords := drop_add_of_drop hBody
  rw [firstTxtRecord, if_neg (by omega), u16At_eq (by omega),
    u16At_eq (by omega), u16At_of_drop hQd, u16At_of_drop hAn]
  simp only [bind_eq_bind, bind_some, hQuestions, hAnswers,
    skipQuestions_wire m.questions_wire hBody]
  exact answers_records hRecords hTexts

-- The Packet Layer

structure PacketLayer : Prop where
  -- what is built is valid, and its payload is found
  built : ∀ ident src dst sport dport,
    ∀ payload : Bytes,
      payload.length ≤ 65507 →
      Valid4 17 (buildUdpIpv4 ident src dst sport dport payload) ∧
      ValidDatagram ((buildUdpIpv4 ident src dst sport dport payload).drop 20) ∧
      Checked.udpPayload (buildUdpIpv4 ident src dst sport dport payload) src sport dport =
        some (some payload)
  -- no reader panics
  total : ∀ (probe : Probe) packet,
    probe.matchesChecked packet = some (probe.matchesPacket packet) ∧
    probe.readChecked packet = some (probe.read packet)
  -- a match has the id and the question of the probe
  matched : ∀ src id port ident packet,
    (Probe.whoami src id port ident).matchesPacket packet = true →
    ∃ msg,
      Checked.udpPayload packet resolver dnsPort (20000 + port % 40000) = some (some msg) ∧
      Answers msg id whoamiName qtypeTxt qclassCh
  -- what is read is the address that the first TXT record spells
  spelled : ∀ (probe : Probe) packet (m : Message) texts,
    Checked.udpPayload packet resolver dnsPort probe.sport = some (some m.bytes) →
    (∀ r, m.txt = some r → r.rdata = Dns.wireName texts ∧ ∀ text ∈ texts, text.length ≤ 255) →
    probe.read packet =
      m.txt.bind fun _ => Routing.parseIpv4 (Text.trim (texts.flatMap lossyText))

/- Packets are built validly, read without a panic, matched and understood. -/
theorem exit_ip_packets : PacketLayer := by
  refine ⟨?_, ?_, ?_, ?_⟩
  · intro ident src dst sport dport payload hFits
    have hValid := valid_buildUdpIpv4 ident src dst sport dport hFits
    exact ⟨hValid.1, hValid.2, udpPayload_of_fields rfl rfl (u16FromBe_toBe 0) rfl rfl hFits⟩
  · intro probe packet
    exact ⟨probe.matchesChecked_eq packet, probe.readChecked_eq packet⟩
  · intro src id port ident packet hMatch
    have hChecked := (Probe.whoami src id port ident).matchesChecked_eq packet
    rcases (Probe.whoami src id port ident).exists_udpPayload packet with ⟨payload, hPayload⟩
    rw [hMatch, Probe.matchesChecked, hPayload, bind_eq_bind, bind_some] at hChecked
    cases payload with
    | none => cases hChecked
    | some msg => exact ⟨msg, hPayload, answers_of_questionMatches (by decide +kernel) hChecked⟩
  · intro probe packet m texts hPayload hTexts
    rw [Probe.read, Probe.readChecked, hPayload]
    simp only [bind_eq_bind, bind_some, firstTxtRecord_message m hTexts]
    cases m.txt with
    | none => rfl
    | some =>
      cases hText : texts.flatMap lossyText with
      | nil | cons => rfl

def sampleMessage : Message :=
  ⟨[0, 7, 0x81, 0x80], [0, 0, 0, 0], [],
    [⟨[0], 1, replicate 6 0, [9], .root, rfl, by decide⟩,
      ⟨[0], qtypeTxt, replicate 6 0, Dns.wireName [ascii "1.2.", ascii "3.4"], .root, rfl,
        by decide +kernel⟩],
    [], rfl, rfl, nofun, by decide, by decide⟩

theorem second_record_is_read :
    let probe := Probe.whoami ⟨10, 0, 0, 2⟩ 7 8 9
    probe.read (buildUdpIpv4 1 resolver ⟨10, 0, 0, 2⟩ dnsPort probe.sport sampleMessage.bytes) =
      some ⟨1, 2, 3, 4⟩ := by
  refine (exit_ip_packets.spelled _ _ sampleMessage [ascii "1.2.", ascii "3.4"]
    (exit_ip_packets.built 1 _ _ _ _ _ (by decide +kernel)).2.2 ?_).trans (by decide +kernel)
  intro r hTxt
  cases hTxt
  exact ⟨rfl, by decide +kernel⟩

end Kourosh.Tun
