import Kourosh.Basic
import Kourosh.Lib.Checksum

/-
  What the receiver of an IP packet checks.

  The length fields say how long the packet is, the sum over an IPv4 header is all ones, and so is
  the sum over the segment and the pseudo-header in front of it.
-/

-- Packets

namespace Kourosh.Ip

open Checksum UInt16
open List

attribute [local simp] u16ToBe

def headerLength (pkt : Bytes) : Nat := (byteAt pkt 0 &&& 0x0f).toNat * 4

/- The sum over a pseudo-header and a segment. -/
def transportSum (addresses : Bytes) (protocol : Nat) (segment : Bytes) : Nat :=
  words addresses + protocol + segment.length + words segment

structure Valid4 (protocol : UInt8) (pkt : Bytes) : Prop where
  version_eq : byteAt pkt 0 >>> 4 = 4
  header_le : 20 ≤ headerLength pkt
  protocol_eq : byteAt pkt 9 = protocol
  totalLength : (u16At pkt 2).toNat = pkt.length
  headerSum : AllOnes (words (pkt.take (headerLength pkt)))
  segmentSum :
    AllOnes (transportSum ((pkt.drop 12).take 8) protocol.toNat (pkt.drop (headerLength pkt)))

structure Valid6 (protocol : UInt8) (pkt : Bytes) : Prop where
  version_eq : byteAt pkt 0 >>> 4 = 6
  next_eq : byteAt pkt 6 = protocol
  payloadLength : 40 + (u16At pkt 4).toNat = pkt.length
  segmentSum : AllOnes (transportSum ((pkt.drop 8).take 32) protocol.toNat (pkt.drop 40))

structure ValidDatagram (udp : Bytes) : Prop where
  length_eq : (u16At udp 4).toNat = udp.length
  checksum_ne : u16At udp 6 ≠ 0

-- Sums Of Fields

lemma words_u16ToBe (v : UInt16) : words (u16ToBe v) = v.toNat := by
  have hField := congrArg toNat (u16FromBe_toBe v)
  rw [toNat_u16FromBe] at hField
  rw [u16ToBe, words, words, hField, Nat.add_zero]

lemma words_u16Field {x : Bytes} (hEven : x.length % 2 = 0) (v : UInt16)
  (y : Bytes) : words (x ++ (u16ToBe v ++ y)) = v.toNat + words (x ++ (u16ToBe 0 ++ y)) := by
  have hField : ∀ v, words (u16ToBe v ++ y) = v.toNat + words y := by
    intro v
    have hTwo : (u16ToBe v).length % 2 = 0 := by simp
    rw [words_append hTwo, words_u16ToBe]
  rw [words_append hEven, words_append hEven, hField, hField]
  simp only [UInt16.toNat_zero]
  omega

section Segments

variable {addresses x y : Bytes} {protocol : Nat} {checksum : UInt16}

variable (hEven : x.length % 2 = 0)
  (hChecksum : checksum.toNat = complement (transportSum addresses protocol (x ++ (u16ToBe 0 ++ y))))

include hEven hChecksum

lemma allOnes_segment :
  AllOnes (transportSum addresses protocol (x ++ (u16ToBe checksum ++ y))) := by
  have hAll := allOnes_add_complement (transportSum addresses protocol (x ++ (u16ToBe 0 ++ y)))
  rw [← hChecksum] at hAll
  have hSum : transportSum addresses protocol (x ++ (u16ToBe checksum ++ y)) =
    checksum.toNat + transportSum addresses protocol (x ++ (u16ToBe 0 ++ y)) := by
    have hLength : (x ++ (u16ToBe checksum ++ y)).length = (x ++ (u16ToBe 0 ++ y)).length := by simp
    rw [transportSum, transportSum, hLength, words_u16Field hEven]
    omega
  rw [hSum]
  exact hAll

lemma allOnes_datagram : AllOnes
  (transportSum addresses protocol (x ++ (u16ToBe (if checksum = 0 then 0xFFFF else checksum) ++
    y))) := by
  have hAll := allOnes_segment hEven hChecksum
  split
  next hZero =>
    rw [hZero, allOnes_iff] at hAll
    have hLength : (x ++ (u16ToBe 0xFFFF ++ y)).length = (x ++ (u16ToBe 0 ++ y)).length := by simp
    have hOnes : (0xFFFF : UInt16).toNat = 65535 := rfl
    rw [allOnes_iff, transportSum, hLength, words_u16Field hEven, hOnes]
    rw [transportSum] at hAll
    omega
  next => exact hAll

end Segments

-- Plain Headers

def header4 (totalLength id fragment : UInt16) (protocol : UInt8)
  (addresses : Bytes) (checksum : UInt16) : Bytes :=
  [0x45, 0x00] ++ (u16ToBe totalLength ++
    (u16ToBe id ++ (u16ToBe fragment ++ ([64, protocol] ++ (u16ToBe checksum ++ addresses)))))

def plainHeader (totalLength : UInt16) (protocol : UInt8) (addresses : Bytes)
  (checksum : UInt16) : Bytes :=
  [0x45, 0x00] ++
    (u16ToBe totalLength ++ ([0, 0, 0x40, 0x00, 64, protocol] ++ (u16ToBe checksum ++ addresses)))

section Plain

variable {totalLength id fragment checksum : UInt16} {protocol : UInt8}
variable {addresses segment : Bytes}

lemma length_header4 (hAddresses : addresses.length = 8) :
  (header4 totalLength id fragment protocol addresses checksum).length = 20 := by
  simp [header4, hAddresses]

lemma plainHeader_eq : plainHeader totalLength protocol addresses checksum =
  header4 totalLength 0 0x4000 protocol addresses checksum := by
  have hId : u16ToBe 0 = [0, 0] := by decide
  have hFragment : u16ToBe 0x4000 = [0x40, 0x00] := by decide
  rw [header4, hId, hFragment]
  rfl

lemma length_plainHeader (hAddresses : addresses.length = 8) :
  (plainHeader totalLength protocol addresses checksum).length = 20 := by
  rw [plainHeader_eq]
  exact length_header4 hAddresses

lemma header4_eq : header4 totalLength id fragment protocol addresses checksum =
  ([0x45, 0x00] ++ u16ToBe totalLength ++ u16ToBe id ++ u16ToBe fragment ++ [64, protocol]) ++
  (u16ToBe checksum ++ addresses) := by simp [header4]

/-
  A header with its own sum is valid in front of a segment exactly if the length fits and the
  segment is valid.
-/
lemma valid4_header4 (hAddresses : addresses.length = 8) (hChecksum :
  checksum.toNat = complement (words (header4 totalLength id fragment protocol addresses 0)))
  (hLength : totalLength = ofNat (20 + segment.length)) :
  Valid4 protocol (header4 totalLength id fragment protocol addresses checksum ++ segment) ↔
  20 + segment.length ≤ 65535 ∧ AllOnes (transportSum addresses protocol.toNat segment) := by
  generalize hHead : header4 totalLength id fragment protocol addresses checksum = header
  have hHeader : header.length = 20 := hHead ▸ length_header4 hAddresses
  have hWhole : (header ++ segment).length = 20 + segment.length := by
    rw [length_append, hHeader]
  have hFirst : byteAt (header ++ segment) 0 = 0x45 := hHead ▸ rfl
  have hIhl : headerLength (header ++ segment) = 20 := by
    rw [headerLength, hFirst]
    rfl
  have hTotal : (u16At (header ++ segment) 2).toNat = (20 + segment.length) % 65536 := by
    have hField : u16At (header ++ segment) 2 = totalLength := hHead ▸ u16FromBe_toBe totalLength
    rw [hField, hLength, toNat_ofNat']
  have hDrop : (header ++ segment).drop 20 = segment := drop_left' hHeader
  have hTake : (header ++ segment).take 20 = header := take_left' hHeader
  have hEnds : ((header ++ segment).drop 12).take 8 = addresses := by
    have hBehind : (header ++ segment).drop 12 = addresses ++ segment := by
      rw [← hHead]
      rfl
    rw [hBehind, take_left' hAddresses]
  have hWords : words header = checksum.toNat +
    words (header4 totalLength id fragment protocol addresses 0) := by
    rw [← hHead, header4_eq, header4_eq]
    exact words_u16Field (by simp) checksum addresses
  constructor
  · intro hValid
    have hFits := hValid.totalLength
    rw [hTotal, hWhole] at hFits
    have hSum := hValid.segmentSum
    rw [hIhl, hDrop, hEnds] at hSum
    exact ⟨by omega, hSum⟩
  · intro hFits
    refine ⟨?_, Nat.le_of_eq hIhl.symm, hHead ▸ rfl, ?_, ?_, ?_⟩
    · rw [hFirst]
      rfl
    · rw [hTotal, hWhole]
      omega
    · rw [hIhl, hTake, hWords, hChecksum]
      exact allOnes_add_complement _
    · rw [hIhl, hDrop, hEnds]
      exact hFits.2

lemma valid4_plain (hAddresses : addresses.length = 8)
  (hChecksum : checksum.toNat = complement (words (plainHeader totalLength protocol addresses 0)))
  (hLength : totalLength = ofNat (20 + segment.length)) :
  Valid4 protocol (plainHeader totalLength protocol addresses checksum ++ segment) ↔
  20 + segment.length ≤ 65535 ∧ AllOnes (transportSum addresses protocol.toNat segment) := by
  rw [plainHeader_eq] at hChecksum ⊢
  exact valid4_header4 hAddresses hChecksum hLength

end Plain

def fixedHeader (payloadLength : UInt16) (next : UInt8) (addresses : Bytes) : Bytes :=
  [0x60, 0x00, 0x00, 0x00] ++ (u16ToBe payloadLength ++ ([next, 64] ++ addresses))

section Fixed

variable {payloadLength : UInt16} {next : UInt8} {addresses segment : Bytes}

lemma length_fixedHeader (hAddresses : addresses.length = 32) :
  (fixedHeader payloadLength next addresses).length = 40 := by
  simp [fixedHeader, hAddresses]

lemma valid6_fixed
  (hAddresses : addresses.length = 32) (hLength : payloadLength = ofNat segment.length) :
  Valid6 next (fixedHeader payloadLength next addresses ++ segment) ↔
  segment.length ≤ 65535 ∧ AllOnes (transportSum addresses next.toNat segment) := by
  have hHeader : (fixedHeader payloadLength next addresses).length = 40 :=
    length_fixedHeader hAddresses
  have hWhole :
    (fixedHeader payloadLength next addresses ++ segment).length = 40 + segment.length := by
    rw [length_append, hHeader]
  have hFirst : byteAt (fixedHeader payloadLength next addresses ++ segment) 0 = 0x60 := rfl
  have hField : (u16At (fixedHeader payloadLength next addresses ++ segment) 4).toNat =
    segment.length % 65536 := by
    have hSame : u16At (fixedHeader payloadLength next addresses ++ segment) 4 = payloadLength :=
      u16FromBe_toBe payloadLength
    rw [hSame, hLength, toNat_ofNat']
  have hDrop : (fixedHeader payloadLength next addresses ++ segment).drop 40 = segment :=
    drop_left' hHeader
  have hEnds :
    ((fixedHeader payloadLength next addresses ++ segment).drop 8).take 32 = addresses := by
    have hFront : fixedHeader payloadLength next addresses =
      ([0x60, 0x00, 0x00, 0x00] ++ u16ToBe payloadLength ++ [next, 64]) ++ addresses := by
      simp [fixedHeader]
    rw [hFront, append_assoc, drop_left' (by simp), take_left' hAddresses]
  constructor
  · intro hValid
    have hFits := hValid.payloadLength
    rw [hField, hWhole] at hFits
    have hSum := hValid.segmentSum
    rw [hDrop, hEnds] at hSum
    exact ⟨by omega, hSum⟩
  · intro hFits
    refine ⟨?_, rfl, ?_, ?_⟩
    · rw [hFirst]
      rfl
    · rw [hField, hWhole]
      omega
    · rw [hDrop, hEnds]
      exact hFits.2

end Fixed

-- Plain Datagrams

def plainDatagram (srcPort dstPort : UInt16) (payload : Bytes) (checksum : UInt16) : Bytes :=
  u16ToBe srcPort ++ (u16ToBe dstPort ++
    (u16ToBe (UInt16.ofNat (8 + payload.length)) ++ (u16ToBe checksum ++ payload)))

variable {srcPort dstPort checksum : UInt16} {payload : Bytes}

lemma length_plainDatagram :
  (plainDatagram srcPort dstPort payload checksum).length = 8 + payload.length := by
  simp [plainDatagram]
  omega

lemma u16At_plainDatagram : u16At (plainDatagram srcPort dstPort payload checksum) 0 = srcPort ∧
  u16At (plainDatagram srcPort dstPort payload checksum) 2 = dstPort :=
  ⟨u16FromBe_toBe srcPort, u16FromBe_toBe dstPort⟩

lemma allOnes_plainDatagram {addresses : Bytes} {protocol : Nat}
  (hChecksum : checksum.toNat = complement (transportSum addresses protocol
    (plainDatagram srcPort dstPort payload 0))) : AllOnes
    (transportSum addresses protocol (plainDatagram srcPort dstPort payload
      (if checksum = 0 then 0xFFFF else checksum))) := by
  have hSplit : ∀ c, plainDatagram srcPort dstPort payload c = (u16ToBe srcPort ++ u16ToBe
    dstPort ++ u16ToBe (ofNat (8 + payload.length))) ++ (u16ToBe c ++ payload) := by
    intro c
    simp [plainDatagram]
  rw [hSplit] at hChecksum ⊢
  exact allOnes_datagram (by simp) hChecksum

/- A datagram is valid exactly if its length fits. -/
lemma validDatagram_plain (hChecksum : checksum ≠ 0) : ValidDatagram
  (plainDatagram srcPort dstPort payload checksum) ↔ 8 + payload.length ≤ 65535 := by
  have hLength : u16At (plainDatagram srcPort dstPort payload checksum) 4 =
    ofNat (8 + payload.length) :=
    u16FromBe_toBe _
  have hField : u16At (plainDatagram srcPort dstPort payload checksum) 6 = checksum :=
    u16FromBe_toBe _
  constructor
  · intro hValid
    have hFits := hValid.length_eq
    rw [hLength, length_plainDatagram, toNat_ofNat'] at hFits
    omega
  · intro hFits
    refine ⟨?_, ?_⟩
    · rw [hLength, length_plainDatagram, toNat_ofNat']
      omega
    · rw [hField]
      exact hChecksum

end Kourosh.Ip
