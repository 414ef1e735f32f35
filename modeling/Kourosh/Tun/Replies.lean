import Kourosh.Tun.Clamp
import Kourosh.Tun.Interception

/-
  The packets that carry DNS answers back to the device.

  The bridge puts an IP header and a UDP header around an answer of the engine.

  Correctness is proven by:
    * `intercepted_reply_valid_iff`
-/

-- Replies

namespace Kourosh.Tun

open Checksum UInt16
open Ip
open SmartDns
open List
open Option

def endsOf (packet : Bytes) : Bytes × Bytes :=
  if version packet = 4 then (slice packet 12 16, slice packet 16 20)
  else (slice packet 8 24, slice packet 24 40)

def portsOf (packet : Bytes) (start : Nat) : UInt16 × UInt16 :=
  (u16At packet start, u16At packet (start + 2))

def datagramStart (packet : Bytes) : Nat := if version packet = 4 then headerLength packet else 40

structure ToAsker (packet : Bytes) (hdrLen : Nat) (reply : Bytes) : Prop where
  version_eq : version reply = version packet
  valid : if version packet = 4 then Valid4 17 reply
    else Valid6 17 reply
  datagram : ValidDatagram (reply.drop (datagramStart reply))
  ends_swapped : endsOf reply = (endsOf packet).swap
  ports_swapped : portsOf reply (datagramStart reply) = (portsOf packet hdrLen).swap

def maxPayload (ipver : UInt8) : Nat := if ipver = 4 then 65507 else 65527

lemma portsOf_drop (packet : Bytes) (start : Nat) :
  portsOf (packet.drop start) 0 = portsOf packet start := by
  simp [portsOf, u16At, byteAt_drop, Nat.add_assoc]

-- The Sum Over A Reply

lemma onesComplementSum_append {x : Bytes} (hEven : x.length % 2 = 0) (y : Bytes) (sum : UInt32) :
  onesComplementSum (x ++ y) sum = onesComplementSum y (onesComplementSum x sum) := by
  induction x, sum using onesComplementSum.induct with
  | case1 => rfl
  | case2 => cases hEven
  | case3 _ _ rest _ ih =>
    have hRest : rest.length % 2 = 0 := by
      simp only [length_cons] at hEven
      omega
    rw [cons_append, cons_append, onesComplementSum, onesComplementSum, ih hRest]

section Sums

variable {ends payload : Bytes} {srcPort dstPort : UInt16}

def replyDatagram (ends : Bytes) (srcPort dstPort : UInt16) (payload : Bytes) : Bytes :=
  let sum := foldChecksum (onesComplementSum (plainDatagram srcPort dstPort payload 0)
    (onesComplementSum ends 0 + 17 + UInt32.ofNat (8 + payload.length)))
  plainDatagram srcPort dstPort payload (if sum = 0 then 0xffff else sum)

lemma length_replyDatagram (ends : Bytes) (srcPort dstPort : UInt16)
  (payload : Bytes) : (replyDatagram ends srcPort dstPort payload).length = 8 + payload.length :=
  length_plainDatagram

lemma allOnes_replyDatagram (hEnds : ends.length ≤ 32) (hFits : 8 + payload.length ≤ 65535) :
  AllOnes (transportSum ends 17 (replyDatagram ends srcPort dstPort payload)) := by
  have hLength : (plainDatagram srcPort dstPort payload 0).length = 8 + payload.length :=
    length_plainDatagram
  have hSum := toNat_segmentSum 17 (plainDatagram srcPort dstPort payload 0) hEnds (by decide)
    (by rw [hLength]; exact hFits)
  rw [hLength] at hSum
  refine allOnes_plainDatagram ?_
  rw [toNat_foldChecksum, hSum]
  rfl

lemma portsOf_replyDatagram : portsOf (replyDatagram ends srcPort dstPort payload) 0 =
  (srcPort, dstPort) := Prod.ext u16At_plainDatagram.1 u16At_plainDatagram.2

lemma validDatagram_replyDatagram :
  ValidDatagram (replyDatagram ends srcPort dstPort payload) ↔ 8 + payload.length ≤ 65535 := by
  refine validDatagram_plain ?_
  split
  next => decide
  next hNonzero => exact hNonzero

lemma valid4_reply {checksum : UInt16}
  (srcPort dstPort : UInt16) (hEnds : ends.length = 8) (hChecksum : checksum.toNat =
  complement (words (plainHeader (ofNat (20 + (8 + payload.length))) 17 ends 0))) :
  Valid4 17 (plainHeader (ofNat (20 + (8 + payload.length))) 17 ends checksum ++
  replyDatagram ends srcPort dstPort payload) ↔ payload.length ≤ 65507 := by
  have hLength := length_replyDatagram ends srcPort dstPort payload
  rw [valid4_plain hEnds hChecksum (by rw [hLength]), hLength]
  constructor
  · intro hValid
    omega
  · intro hFits
    refine ⟨by omega, allOnes_replyDatagram ?_ ?_⟩
    all_goals omega

lemma valid6_reply (srcPort dstPort : UInt16) (hEnds : ends.length = 32) :
  Valid6 17 (fixedHeader (ofNat (8 + payload.length)) 17 ends ++
  replyDatagram ends srcPort dstPort payload) ↔ payload.length ≤ 65527 := by
  have hLength := length_replyDatagram ends srcPort dstPort payload
  rw [valid6_fixed hEnds (by rw [hLength]), hLength]
  constructor
  · intro hValid
    omega
  · intro hFits
    refine ⟨by omega, allOnes_replyDatagram ?_ ?_⟩
    all_goals omega

end Sums

-- Both Versions

section Replies

variable {packet payload : Bytes} {hdrLen : Nat}

lemma length_slice {i j : Nat} (hLe : j ≤ packet.length) : (slice packet i j).length = j - i := by
  rw [slice, length_take, length_drop]
  omega

lemma length_ends_four (hLength : 20 ≤ packet.length) : (slice packet 16 20).length = 4 ∧
  (slice packet 12 16).length = 4 ∧ (slice packet 16 20 ++ slice packet 12 16).length = 8 := by
  have hSrc : (slice packet 16 20).length = 4 := length_slice hLength
  have hDst : (slice packet 12 16).length = 4 := length_slice (by omega)
  refine ⟨hSrc, hDst, ?_⟩
  rw [length_append, hSrc, hDst]

lemma length_ends_six (hLength : 40 ≤ packet.length) : (slice packet 24 40).length = 16 ∧
  (slice packet 8 24).length = 16 ∧ (slice packet 24 40 ++ slice packet 8 24).length = 32 := by
  have hSrc : (slice packet 24 40).length = 16 := length_slice hLength
  have hDst : (slice packet 8 24).length = 16 := length_slice (by omega)
  refine ⟨hSrc, hDst, ?_⟩
  rw [length_append, hSrc, hDst]

lemma replyHeader_four (hLength : 20 ≤ packet.length) (udpLen : Nat) : ∃ checksum,
  replyHeader packet 4 udpLen = plainHeader (ofNat (20 + udpLen)) 17 (slice packet 16 20 ++
  slice packet 12 16) checksum ∧ checksum.toNat = complement (words (plainHeader
  (ofNat (20 + udpLen)) 17 (slice packet 16 20 ++ slice packet 12 16) 0)) := by
  have hZero : [0x45, 0x00] ++ u16ToBe (ofNat (20 + udpLen)) ++
    [0x00, 0x00, 0x40, 0x00, 0x40, 0x11, 0x00, 0x00] ++ slice packet 16 20 ++ slice packet 12 16 =
    plainHeader (ofNat (20 + udpLen)) 17 (slice packet 16 20 ++ slice packet 12 16) 0 := by
    rw [append_assoc]
    rfl
  rw [replyHeader, if_neg (by decide), hZero]
  refine ⟨_, rfl, ?_⟩
  have hWords := words_le
    (plainHeader (ofNat (20 + udpLen)) 17 (slice packet 16 20 ++ slice packet 12 16) 0)
  rw [length_plainHeader (length_ends_four hLength).2.2] at hWords
  rw [toNat_foldChecksum, toNat_onesComplementSum,
    UInt32.toNat_zero, Nat.zero_add, Nat.mod_eq_of_lt]
  omega

lemma replyHeader_six (udpLen : Nat) : replyHeader packet 6 udpLen =
  fixedHeader (ofNat udpLen) 17 (slice packet 24 40 ++ slice packet 8 24) := by
  rw [replyHeader, if_pos rfl, append_assoc]
  rfl

variable {dst src : Bytes} {ipver : UInt8}

lemma slices_plainHeader (totalLength checksum : UInt16)
  (protocol : UInt8) (y : Bytes) (hSrc : src.length = 4) (hDst : dst.length = 4) :
  slice (plainHeader totalLength protocol (src ++ dst) checksum ++ y) 12 16 = src ∧
  slice (plainHeader totalLength protocol (src ++ dst) checksum ++ y) 16 20 = dst := by
  constructor
  · have hDrop : (plainHeader totalLength protocol (src ++ dst) checksum ++ y).drop 12 =
      src ++ (dst ++ y) := by
      rw [← append_assoc]
      rfl
    rw [slice, hDrop, take_left' hSrc]
  · have hDrop : (plainHeader totalLength protocol (src ++ dst) checksum ++ y).drop 16 =
      (src ++ (dst ++ y)).drop 4 := by
      rw [← append_assoc src]
      rfl
    rw [slice, hDrop, drop_left' hSrc, take_left' hDst]

lemma slices_fixedHeader
  (payloadLength : UInt16) (next : UInt8) (y : Bytes) (hSrc : src.length = 16)
  (hDst : dst.length = 16) : slice (fixedHeader payloadLength next (src ++ dst) ++ y) 8 24 = src ∧
  slice (fixedHeader payloadLength next (src ++ dst) ++ y) 24 40 = dst := by
  constructor
  · have hDrop : (fixedHeader payloadLength next (src ++ dst) ++ y).drop 8 = src ++ (dst ++ y) := by
      rw [← append_assoc]
      rfl
    rw [slice, hDrop, take_left' hSrc]
  · have hDrop : (fixedHeader payloadLength next (src ++ dst) ++ y).drop 24 =
      (src ++ (dst ++ y)).drop 16 := by
      rw [← append_assoc src]
      rfl
    rw [slice, hDrop, drop_left' hSrc, take_left' hDst]

lemma pseudoSum_four (hLength : 20 ≤ packet.length)
  (udpLen : Nat) : pseudoSum (replyHeader packet 4 udpLen) 4 udpLen =
  onesComplementSum (slice packet 16 20 ++ slice packet 12 16) 0 + 17 + UInt32.ofNat udpLen := by
  rcases replyHeader_four hLength udpLen with ⟨checksum, hHeader, -⟩
  have hSlice :
    slice (replyHeader packet 4 udpLen) 12 20 = slice packet 16 20 ++ slice packet 12 16 := by
    rw [hHeader]
    refine take_of_length_le ?_
    rw [length_drop, length_plainHeader (length_ends_four hLength).2.2]
  rw [pseudoSum, if_neg (by decide), hSlice]

lemma pseudoSum_six (hLength : 40 ≤ packet.length)
  (udpLen : Nat) : pseudoSum (replyHeader packet 6 udpLen) 6 udpLen =
  onesComplementSum (slice packet 24 40 ++ slice packet 8 24) 0 + 17 + UInt32.ofNat udpLen := by
  rcases length_ends_six hLength with ⟨hSrc, hDst, -⟩
  have hSlices := slices_fixedHeader (ofNat udpLen) 17 [] hSrc hDst
  rw [append_nil, ← replyHeader_six] at hSlices
  rw [pseudoSum, if_pos rfl, hSlices.1, hSlices.2, ← onesComplementSum_append (by rw [hSrc])]
  rw [UInt32.add_assoc, UInt32.add_comm (UInt32.ofNat udpLen), ← UInt32.add_assoc]

lemma buildReply_eq (hdrLen : Nat) {ends : Bytes}
  (hSum : pseudoSum (replyHeader packet ipver (8 + payload.length)) ipver (8 + payload.length) =
  onesComplementSum ends 0 + 17 + UInt32.ofNat (8 + payload.length)) :
  buildReply packet hdrLen ipver payload = replyHeader packet ipver (8 + payload.length) ++
  replyDatagram ends (u16At packet (hdrLen + 2)) (u16At packet hdrLen) payload := by
  rw [buildReply]
  simp only [hSum]
  rfl

lemma toAsker_iff {reply header ends : Bytes} {limit : Nat}
  (hReply : reply = header ++ replyDatagram ends (u16At packet (hdrLen + 2))
    (u16At packet hdrLen) payload) (hVersion : version reply = version packet)
  (hStart : datagramStart reply = header.length) (hEnds : endsOf reply = (endsOf packet).swap)
  (hValid : (if version packet = 4 then Valid4 17 reply
    else Valid6 17 reply) ↔ payload.length ≤ limit)
  (hLimit : limit ≤ 65527) : ToAsker packet hdrLen reply ↔ payload.length ≤ limit := by
  have hDrop : reply.drop (datagramStart reply) =
    replyDatagram ends (u16At packet (hdrLen + 2)) (u16At packet hdrLen) payload := by
    rw [hStart, hReply]
    exact drop_left' rfl
  constructor
  · intro hAsker
    exact hValid.mp hAsker.valid
  · intro hFits
    refine ⟨hVersion, hValid.mpr hFits, ?_, hEnds, ?_⟩
    · rw [hDrop]
      exact validDatagram_replyDatagram.mpr (by omega)
    · rw [← portsOf_drop, hDrop, portsOf_replyDatagram]
      rfl

lemma toAsker_four_iff (hVersion : version packet = 4) (hLength : 20 ≤ packet.length) :
  ToAsker packet hdrLen (buildReply packet hdrLen 4 payload) ↔ payload.length ≤ 65507 := by
  rcases length_ends_four hLength with ⟨hSrc, hDst, hEnds⟩
  rcases replyHeader_four hLength (8 + payload.length) with ⟨checksum, hHeader, hChecksum⟩
  have hReply := buildReply_eq hdrLen (pseudoSum_four hLength (8 + payload.length))
  rw [hHeader] at hReply
  have hFirst : byteAt (buildReply packet hdrLen 4 payload) 0 = 0x45 := by
    rw [hReply]
    rfl
  have hSame : version (buildReply packet hdrLen 4 payload) = 4 := by
    rw [version, hFirst]
    decide
  refine toAsker_iff hReply (hSame.trans hVersion.symm) ?_ ?_ ?_ (by decide)
  · rw [length_plainHeader hEnds, datagramStart, if_pos hSame, headerLength, hFirst]
    decide
  · have hSlices := slices_plainHeader
      (ofNat (20 + (8 + payload.length))) checksum 17 (replyDatagram (slice packet 16 20 ++
      slice packet 12 16) (u16At packet (hdrLen + 2)) (u16At packet hdrLen) payload) hSrc hDst
    rw [endsOf, endsOf, if_pos hSame, if_pos hVersion, hReply]
    exact Prod.ext hSlices.1 hSlices.2
  · rw [if_pos hVersion, hReply]
    exact valid4_reply _ _ hEnds hChecksum

lemma toAsker_six_iff (hVersion : version packet = 6) (hLength : 40 ≤ packet.length) :
  ToAsker packet hdrLen (buildReply packet hdrLen 6 payload) ↔ payload.length ≤ 65527 := by
  rcases length_ends_six hLength with ⟨hSrc, hDst, hEnds⟩
  have hReply := buildReply_eq hdrLen (pseudoSum_six hLength (8 + payload.length))
  rw [replyHeader_six] at hReply
  have hFirst : byteAt (buildReply packet hdrLen 6 payload) 0 = 0x60 := by
    rw [hReply]
    rfl
  have hSame : version (buildReply packet hdrLen 6 payload) = 6 := by
    rw [version, hFirst]
    decide
  have hNot : (6 : UInt8) ≠ 4 := by decide
  refine toAsker_iff hReply (hSame.trans hVersion.symm) ?_ ?_ ?_ (Nat.le_refl _)
  · rw [length_fixedHeader hEnds, datagramStart, hSame, if_neg hNot]
  · have hSlices := slices_fixedHeader
      (ofNat (8 + payload.length)) 17 (replyDatagram (slice packet 24 40 ++
      slice packet 8 24) (u16At packet (hdrLen + 2)) (u16At packet hdrLen) payload) hSrc hDst
    rw [endsOf, endsOf, hSame, hVersion, if_neg hNot, if_neg hNot, hReply]
    exact Prod.ext hSlices.1 hSlices.2
  · rw [hVersion, if_neg hNot, hReply]
    exact valid6_reply _ _ hEnds

variable (hHeader : parseHeader packet = some (hdrLen, ipver))

include hHeader

lemma version_of_parseHeader : (ipver = 4 ∧ version packet = 4 ∧ 20 ≤ packet.length) ∨
  (ipver = 6 ∧ version packet = 6 ∧ 40 ≤ packet.length) := by
  rw [parseHeader] at hHeader
  cases hFour : parseIpv4Header packet with
  | some =>
    rw [hFour] at hHeader
    cases hHeader
    simp only [parseIpv4Header, ite_none_left_eq_some] at hFour
    exact .inl ⟨rfl, not_not.mp hFour.2.1, by omega⟩
  | none =>
    rw [hFour] at hHeader
    rcases map_eq_some_iff.mp hHeader with ⟨offset, hSix, hPair⟩
    cases hPair
    simp only [parseIpv6Header, ite_none_left_eq_some] at hSix
    exact .inr ⟨rfl, not_not.mp hSix.2.1, by omega⟩

lemma toAsker_buildReply_iff : ToAsker packet hdrLen (buildReply packet hdrLen ipver payload) ↔
  payload.length ≤ maxPayload ipver := by
  rcases version_of_parseHeader hHeader with ⟨rfl, hVersion, hLength⟩ | ⟨rfl, hVersion, hLength⟩
  · exact toAsker_four_iff hVersion hLength
  · exact toAsker_six_iff hVersion hLength

end Replies

-- What Is Written Back

/-
  Whatever the engine answers, a reply is written, and it is a valid packet to the asker exactly
  if the answer fits.
-/
theorem intercepted_reply_valid_iff
    (lib : Libraries)
    (env : Environment)
    (engine : SmartDnsSplit)
    (packet : Bytes)
    (hdrLen : Nat)
    (ipver : UInt8)
    (payload : Bytes)
    (isGemini : Bool)
    (hHeader : parseHeader packet = some (hdrLen, ipver))
    (hAnswer : (engine.processQuery lib env packet hdrLen).1 = some (payload, isGemini)) :
    ∃ reply,
      (intercept lib env (some engine) packet).1 = some reply ∧
      (ToAsker packet hdrLen reply ↔ payload.length ≤ maxPayload ipver) := by
  have hBounds := bounds_of_geminiAt (processQuery_isSome_iff.mp ⟨_, hAnswer⟩)
  refine ⟨buildReply packet hdrLen ipver payload, ?_, toAsker_buildReply_iff hHeader⟩
  simp [intercept, hHeader, if_pos hBounds, hAnswer]

def queryPacket : Bytes :=
  [0x45, 0x00, 0x00, 0x3f, 0x00, 0x00, 0x40, 0x00, 0x40,
    0x11, 0x2e, 0xab, 0x0a, 0x00, 0x00, 0x02, 0x01, 0x01, 0x01, 0x01] ++ SmartDnsSplit.geminiQuery

def dotResolver : DnsEndpoint where
  address := "dns.example.com".toList
  transport := .dot
  name := some "dns.example.com".toList

def dotEngine : SmartDnsSplit := SmartDnsSplit.new.setEncryptedResolvers [dotResolver]

def answering (data : Bytes) : Environment :=
  { SmartDnsSplit.silence 0 with encrypted := fun _ => some data }

lemma parseHeader_queryPacket : parseHeader queryPacket = some (20, 4) := by decide +kernel

lemma processQuery_dotEngine (data : Bytes) (hMessage : 12 ≤ data.length) :
  (dotEngine.processQuery asciiLibraries (answering data) queryPacket 20).1 =
  some (data, true) := by
  have hQuestion : SmartDnsSplit.question queryPacket 20 = some (SmartDnsSplit.geminiQuery.drop 8,
    ascii "gemini.google.com", 1) := by decide +kernel
  have hGemini : isGeminiDomain asciiLibraries (ascii "gemini.google.com") := by decide +kernel
  have hEncrypted : dotEngine.encryptedAnswer asciiLibraries (answering data) = some data := by
    have hFilter : (some data).filter asciiLibraries.isMessage = some data := by
      simp [asciiLibraries, hMessage]
    have hTried : dotEngine.encryptedTried = [dotResolver] := rfl
    have hSome : (answering data).encrypted dotResolver = data := rfl
    have hHas : dotEngine.hasEncrypted := rfl
    have hFull : dotEngine.encryptedResolvers.isEmpty = false := rfl
    have hEncodable : (!(answering data).encodable) = false := rfl
    rw [SmartDnsSplit.encryptedAnswer, if_pos hHas,
      SmartDnsSplit.encryptedQuery, hFull, hEncodable, hTried, if_neg Bool.false_ne_true,
      if_neg Bool.false_ne_true, findSome?_singleton, hSome, hFilter]
  have hCached : ∀ key, dotEngine.cached key (answering data).lookupTime = none := fun _ => rfl
  rw [SmartDnsSplit.processQuery, SmartDnsSplit.answered, hQuestion]
  simp [hGemini, SmartDnsSplit.answer, hCached, hEncrypted]

theorem bare_header_is_valid : ∃ reply, (intercept asciiLibraries (answering (List.replicate 12 0))
  (some dotEngine) queryPacket).1 = some reply ∧ ToAsker queryPacket 20 reply := by
  rcases intercepted_reply_valid_iff asciiLibraries
    (answering (List.replicate 12 0)) dotEngine queryPacket
    20 4 (List.replicate 12 0) true parseHeader_queryPacket
    (processQuery_dotEngine _ (by decide)) with
    ⟨reply, hReply, hValid⟩
  exact ⟨reply, hReply, hValid.mpr (by decide)⟩

/- The longest answer over DoT. -/
theorem long_answer_is_not_valid : ∃ data reply, data.length = 65535 ∧
  (intercept asciiLibraries (answering data) (some dotEngine) queryPacket).1 = some reply ∧
  ¬ ToAsker queryPacket 20 reply := by
  have hLong : ∃ data : Bytes, data.length = 65535 := ⟨List.replicate 65535 0, length_replicate⟩
  rcases hLong with ⟨data, hData⟩
  have hAnswer := processQuery_dotEngine data (by omega)
  have hBounds := bounds_of_geminiAt (processQuery_isSome_iff.mp ⟨_, hAnswer⟩)
  refine ⟨data, buildReply queryPacket 20 4 data, hData, ?_, ?_⟩
  · simp [intercept, parseHeader_queryPacket, if_pos hBounds, hAnswer]
  · rw [toAsker_buildReply_iff parseHeader_queryPacket, hData]
    decide

end Kourosh.Tun
