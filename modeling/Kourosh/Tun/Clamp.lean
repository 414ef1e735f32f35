import Kourosh.Ip.Validity
import Kourosh.Tun.Packet

/-
  Which packets the MSS clamp rewrites.

  The clamp is written out once more with every index, slice and subtraction checked and the
  packet passed along, as the source does it.
-/

-- Splices

namespace Kourosh.Tun

open Checksum
open Ip
open List Option

section Splice

variable {packet bytes : Bytes} {i : Nat}
variable (hInside : i + bytes.length ≤ packet.length)

include hInside

lemma length_splice : (splice packet i bytes).length = packet.length := by
  simp only [splice, length_append, length_take, length_drop]
  omega

variable {p : Nat}

lemma byteAt_splice_of_outside (hOutside : p < i ∨ i + bytes.length ≤ p) :
  byteAt (splice packet i bytes) p = byteAt packet p := by
  have hTake : (packet.take i).length = i := by
    rw [length_take]
    omega
  simp only [byteAt, splice, getD_eq_getElem?_getD, append_assoc]
  rcases hOutside with hBefore | _
  · rw [getElem?_append_left (by omega), getElem?_take_of_lt hBefore]
  · rw [getElem?_append_right (by omega), hTake, getElem?_append_right (by omega), getElem?_drop]
    congr 2
    omega

lemma byteAt_splice_of_inside (hLow : i ≤ p) (hHigh : p < i + bytes.length) :
  byteAt (splice packet i bytes) p = byteAt bytes (p - i) := by
  have hTake : (packet.take i).length = i := by
    rw [length_take]
    omega
  simp only [byteAt, splice, getD_eq_getElem?_getD, append_assoc]
  rw [getElem?_append_right (by omega), hTake, getElem?_append_left (by omega)]

lemma splice_splice {bytes' : Bytes} (hSame : bytes'.length = bytes.length) :
  splice (splice packet i bytes) i bytes' = splice packet i bytes' := by
  have hTake : (packet.take i).length = i := by
    rw [length_take]
    omega
  have hFront : (splice packet i bytes).take i = packet.take i := by
    rw [splice, append_assoc, take_left' hTake]
  have hBack :
    (splice packet i bytes).drop (i + bytes'.length) = packet.drop (i + bytes'.length) := by
    rw [splice, hSame]
    exact drop_left' (by
      rw [length_append, hTake])
  rw [splice, hFront, hBack]
  rfl

lemma drop_splice {start : Nat} (hStart : start ≤ i) : (splice packet i bytes).drop start =
  (packet.drop start).take (i - start) ++ (bytes ++ packet.drop (i + bytes.length)) := by
  have hLe : start ≤ (packet.take i).length := by
    rw [length_take]
    omega
  rw [splice, append_assoc, drop_append_of_le_length hLe, drop_take]

lemma slice_splice {low high : Nat} (hBefore : high ≤ i) :
  slice (splice packet i bytes) low high = slice packet low high := by
  have hLe : high ≤ (packet.take i).length := by
    rw [length_take]
    omega
  have hFront : (splice packet i bytes).take high = packet.take high := by
    rw [splice, append_assoc, take_append_of_le_length hLe, take_take, Nat.min_eq_left hBefore]
  rw [slice, slice, ← drop_take, ← drop_take, hFront]

lemma u16At_splice_of_outside (hOutside : p + 2 ≤ i ∨ i + bytes.length ≤ p) :
  u16At (splice packet i bytes) p = u16At packet p := by
  rw [u16At, u16At, byteAt_splice_of_outside hInside (by omega),
    byteAt_splice_of_outside hInside (by omega)]

end Splice

variable {packet result : Bytes}

lemma u16At_splice {i : Nat} (v : UInt16) (hInside : i + (u16ToBe v).length ≤ packet.length) :
  u16At (splice packet i (u16ToBe v)) i = v := by
  have hLength : (u16ToBe v).length = 2 := rfl
  have hFirst := byteAt_splice_of_inside hInside (show i ≤ i by omega) (by omega)
  have hSecond := byteAt_splice_of_inside hInside (show i ≤ i + 1 by omega) (by omega)
  rw [u16At, hFirst, hSecond, Nat.sub_self, Nat.add_sub_cancel_left]
  exact u16FromBe_toBe v

-- Sums

lemma toNat_onesComplementSum (bytes : Bytes)
  (sum : UInt32) : (onesComplementSum bytes sum).toNat = (sum.toNat + words bytes) % 2 ^ 32 := by
  induction bytes, sum using onesComplementSum.induct with
  | case1 sum =>
    have hLt := sum.toNat_lt
    rw [onesComplementSum, words]
    omega
  | case2 b =>
    have hLt := b.toNat_lt
    have hEight : (8 : UInt32).toNat % 32 = 8 := rfl
    have hShift : (b.toUInt32 <<< 8).toNat = b.toNat * 256 := by
      rw [UInt32.toNat_shiftLeft, UInt8.toNat_toUInt32, Nat.shiftLeft_eq, hEight]
      exact Nat.mod_eq_of_lt (by omega)
    rw [onesComplementSum, words, UInt32.toNat_add, hShift]
  | case3 _ _ _ _ ih =>
    rw [onesComplementSum, ih, words, UInt32.toNat_add, UInt16.toNat_toUInt32, toNat_u16FromBe]
    omega

lemma foldSum_eq (sum : Nat) : foldSum sum = fold sum := by
  fun_induction foldSum sum with
  | case1 _ hNone => rw [fold, if_pos hNone]
  | case2 _ hSome ih =>
    rw [ih]
    symm
    rw [fold, if_neg hSome]

lemma toNat_foldChecksum (sum : UInt32) : (foldChecksum sum).toNat = complement sum.toNat := by
  have hLe := fold_le sum.toNat
  rw [foldChecksum, UInt16.toNat_not, foldSum_eq, UInt16.toNat_ofNat', complement]
  have hSize : UInt16.size = 65536 := rfl
  omega

lemma toNat_segmentSum {ends : Bytes} (protocol : UInt32)
  (segment : Bytes) (hEnds : ends.length ≤ 32) (hProtocol : protocol.toNat < 256)
  (hSegment : segment.length ≤ 65535) : (onesComplementSum segment (onesComplementSum ends 0 +
  protocol + UInt32.ofNat segment.length)).toNat = transportSum ends protocol.toNat segment := by
  have hWords := words_le ends
  have hSum := words_le segment
  rw [toNat_onesComplementSum, UInt32.toNat_add,
    UInt32.toNat_add, toNat_onesComplementSum, UInt32.toNat_ofNat', transportSum, UInt32.toNat_zero]
  omega

-- Checked Reads

namespace Checked

/- `buf[lo..hi]`. -/
def slice (buf : Bytes) (lo hi : Nat) : Option Bytes :=
  if lo ≤ hi ∧ hi ≤ buf.length then some (Tun.slice buf lo hi)
  else none

/- `buf[i..i + n].copy_from_slice(bytes)`. -/
def splice (buf : Bytes) (i : Nat) (bytes : Bytes) : Option Bytes :=
  if i + bytes.length ≤ buf.length then some (Tun.splice buf i bytes)
  else none

/- `a - b` of two `usize`. -/
def sub (a b : Nat) : Option Nat := if b ≤ a then some (a - b) else none

/- `u16::from_be_bytes([buf[i], buf[i + 1]])`. -/
def u16At (buf : Bytes) (i : Nat) : Option UInt16 := do
  let hi ← buf[i]?
  let lo ← buf[i + 1]?
  return u16FromBe hi lo

def addresses (packet : Bytes) (version : UInt8) : Option Bytes :=
  if version = 4 then slice packet 12 20
  else slice packet 8 40

def recomputeTcpChecksum (packet : Bytes) (ipHeaderLen : Nat) (version : UInt8) : Option Bytes := do
  let tcpLen ← sub packet.length ipHeaderLen
  let cleared ← splice packet (ipHeaderLen + 16) [0, 0]
  let addresses ← addresses cleared version
  let segment ← slice cleared ipHeaderLen cleared.length
  let sum := onesComplementSum segment (onesComplementSum addresses 0 + 6 + UInt32.ofNat tcpLen)
  splice cleared (ipHeaderLen + 16) (u16ToBe (foldChecksum sum))

/- The loop over the options. -/
def walk (packet : Bytes) (tcp : Nat) (version : UInt8) (optionsEnd : Nat)
  (target : UInt16) (i : Nat) : Option (Bool × Bytes) :=
  if i + 1 < optionsEnd then
    match packet[i]?, packet[i + 1]? with
    | some kind, some length =>
      if kind = 0 then some (false, packet)
      else if kind = 1 then walk packet tcp version optionsEnd target (i + 1)
      else if kind = 2 then
        if length ≠ 4 ∨ i + 4 > optionsEnd then some (false, packet)
        else do
          let current ← u16At packet (i + 2)
          if current ≤ target then some (false, packet)
          else do
            let packet ← splice packet (i + 2) (u16ToBe target)
            let packet ← recomputeTcpChecksum packet tcp version
            return (true, packet)
      else if length.toNat < 2 then some (false, packet)
      else walk packet tcp version optionsEnd target (i + length.toNat)
    | _, _ => none
  else some (false, packet)
termination_by optionsEnd - i

def header (packet : Bytes) (first : UInt8) : Option (Option (Nat × UInt8)) :=
  if first >>> 4 = 4 then
    if packet.length < 20 then some none
    else do
      let protocol ← packet[9]?
      return some ((first &&& 0x0f).toNat * 4, protocol)
  else if first >>> 4 = 6 then
    if packet.length < 40 then some none
    else do
      let protocol ← packet[6]?
      return some (40, protocol)
  else some none

/- `clamp_tcp_mss`: what it returns, and the packet then. -/
def clampTcpMss (packet : Bytes) (maxInner : Nat) : Option (Bool × Bytes) :=
  if packet = [] then some (false, packet)
  else do
    let first ← packet[0]?
    match ← header packet first with
    | none => some (false, packet)
    | some (tcp, protocol) =>
      if protocol ≠ 6 ∨ packet.length < tcp + 20 then some (false, packet)
      else do
        let flags ← packet[tcp + 13]?
        if flags &&& 0x02 = 0 then some (false, packet)
        else do
          let offset ← packet[tcp + 12]?
          let dataOffset := (offset >>> 4).toNat * 4
          let target := maxInner - ipTcpOverhead
          if dataOffset < 20 ∨ packet.length < tcp + dataOffset then some (false, packet)
          else if target = 0 ∨ target > 65535 then some (false, packet)
          else
            walk packet tcp (first >>> 4) (tcp + dataOffset) (UInt16.ofNat target) (tcp + 20)

variable {buf : Bytes} {i : Nat}

lemma u16At_eq (hLt : i + 1 < buf.length) : u16At buf i = some (Kourosh.u16At buf i) := by
  rw [u16At, getElem?_eq_byteAt (Nat.lt_of_succ_lt hLt), getElem?_eq_byteAt hLt]
  rfl

lemma splice_eq {bytes : Bytes} (hInside : i + bytes.length ≤ buf.length) :
  splice buf i bytes = some (Tun.splice buf i bytes) := if_pos hInside

lemma slice_eq {lo hi : Nat} (hInside : lo ≤ hi ∧ hi ≤ buf.length) :
  slice buf lo hi = some (Tun.slice buf lo hi) := if_pos hInside

def Headed (packet : Bytes) : Prop := 20 ≤ packet.length ∧ (version packet ≠ 4 → 40 ≤ packet.length)

lemma recomputeTcpChecksum_eq {tcp : Nat} (hHeaded : Headed packet)
  (hTcp : tcp + 18 ≤ packet.length) : recomputeTcpChecksum packet tcp (version packet) =
  some (Tun.recomputeTcpChecksum packet tcp) := by
  have hInside : tcp + 16 + [(0 : UInt8), 0].length ≤ packet.length := hTcp
  have hLength := length_splice hInside
  have hSub : sub packet.length tcp = some (packet.length - tcp) := if_pos (by omega)
  have hSegment : slice (Tun.splice packet (tcp + 16) [0, 0]) tcp (Tun.splice packet (tcp + 16) [0,
    0]).length = some ((Tun.splice packet (tcp + 16) [0, 0]).drop tcp) := by
    rw [slice_eq ⟨by omega, Nat.le_refl _⟩, Tun.slice, take_of_length_le (by rw [length_drop])]
  have hAddresses : addresses (Tun.splice packet (tcp + 16) [0, 0]) (version packet) =
    some (if version packet = 4 then
      Tun.slice (Tun.splice packet (tcp + 16) [0, 0]) 12 20
      else Tun.slice (Tun.splice packet (tcp + 16) [0, 0]) 8 40) := by
    rw [addresses]
    by_cases hFour : version packet = 4
    · rw [if_pos hFour, if_pos hFour, slice_eq ⟨by decide, by rw [hLength]; exact hHeaded.1⟩]
    · rw [if_neg hFour, if_neg hFour, slice_eq ⟨by decide, by rw [hLength]; exact hHeaded.2 hFour⟩]
  simp only [recomputeTcpChecksum,
    hSub, splice_eq hInside, hAddresses, hSegment, bind_eq_bind, bind_some]
  rw [splice_eq (by rw [hLength]; exact hTcp)]
  rfl

def outcome (packet : Bytes) (rewritten : Option Bytes) : Bool × Bytes :=
  (rewritten.isSome, rewritten.getD packet)

lemma walk_eq {tcp optionsEnd : Nat} {target : UInt16}
  (hHeaded : Headed packet) (hEnd : optionsEnd ≤ packet.length) (hFront : tcp + 20 ≤ i) :
  walk packet tcp (version packet) optionsEnd target i = some (outcome packet
  ((findMss packet optionsEnd i).bind fun j => lowerMss packet tcp j target)) := by
  fun_induction findMss packet optionsEnd i with
  | case1 i hMore hKind =>
    rw [walk, if_pos hMore, getElem?_eq_byteAt (by omega), getElem?_eq_byteAt (by omega)]
    simp only [hKind, if_true]
    rfl
  | case2 i hMore hZero hKind ih =>
    rw [walk, if_pos hMore, getElem?_eq_byteAt (by omega), getElem?_eq_byteAt (by omega)]
    simp only [if_neg hZero, if_pos hKind]
    exact ih (by omega)
  | case3 i hMore hZero hOne hKind hBad =>
    rw [walk, if_pos hMore, getElem?_eq_byteAt (by omega), getElem?_eq_byteAt (by omega)]
    simp only [if_neg hZero, if_neg hOne, if_pos hKind, if_pos hBad]
    rfl
  | case4 i hMore hZero hOne hKind hGood =>
    have hInside : i + 2 + (u16ToBe target).length ≤ packet.length := by
      simp only [u16ToBe, length_cons, length_nil]
      omega
    have hVersion : version (Tun.splice packet (i + 2) (u16ToBe target)) = version packet := by
      rw [version, byteAt_splice_of_outside hInside (.inl (by omega))]
      rfl
    have hLength := length_splice hInside
    have hAgain : Headed (Tun.splice packet (i + 2) (u16ToBe target)) := by
      rw [Headed, hVersion, hLength]
      exact hHeaded
    have hTcp : tcp + 18 ≤ (Tun.splice packet (i + 2) (u16ToBe target)).length := by
      rw [hLength]
      omega
    have hRecompute := recomputeTcpChecksum_eq hAgain hTcp
    rw [hVersion] at hRecompute
    have hCurrent : u16At packet (i + 2) = some (Kourosh.u16At packet (i + 2)) :=
      u16At_eq (by omega)
    rw [walk, if_pos hMore, getElem?_eq_byteAt (by omega), getElem?_eq_byteAt (by omega)]
    simp only [if_neg hZero, if_neg hOne, if_pos hKind, if_neg hGood,
      hCurrent, splice_eq hInside, hRecompute, bind_eq_bind, bind_some, lowerMss]
    split
    next => rfl
    next => rfl
  | case5 i hMore hZero hOne hTwo hBad =>
    rw [walk, if_pos hMore, getElem?_eq_byteAt (by omega), getElem?_eq_byteAt (by omega)]
    simp only [if_neg hZero, if_neg hOne, if_neg hTwo, if_pos hBad]
    rfl
  | case6 i hMore hZero hOne hTwo hGood ih =>
    rw [walk, if_pos hMore, getElem?_eq_byteAt (by omega), getElem?_eq_byteAt (by omega)]
    simp only [if_neg hZero, if_neg hOne, if_neg hTwo, if_neg hGood]
    exact ih (by omega)
  | case7 i hStop =>
    rw [walk, if_neg hStop]
    rfl

lemma header_eq (hSome : packet ≠ []) :
  ∃ h, header packet (byteAt packet 0) = some h ∧ (h ≠ none → Headed packet) ∧ tcpStart packet =
    h.bind fun r => if r.2 = 6 then some r.1 else none := by
  have hVersion : byteAt packet 0 >>> 4 = version packet := rfl
  rw [header, tcpStart, if_neg hSome, hVersion]
  by_cases hFour : version packet = 4
  · rw [if_pos hFour, if_pos hFour]
    by_cases hShort : packet.length < 20
    · rw [if_pos hShort, if_pos (.inl hShort)]
      exact ⟨none, rfl, absurd rfl, rfl⟩
    · rw [if_neg hShort, getElem?_eq_byteAt (by omega)]
      refine ⟨_, rfl, fun _ => ⟨by omega, ?_⟩, ?_⟩
      · exact fun hOther => absurd hFour hOther
      · by_cases hProtocol : byteAt packet 9 = 6
        · rw [if_neg (by simp [hShort, hProtocol])]
          simp [hProtocol, ihl]
        · rw [if_pos (.inr hProtocol)]
          simp [hProtocol]
  · rw [if_neg hFour, if_neg hFour]
    by_cases hSix : version packet = 6
    · rw [if_pos hSix, if_pos hSix]
      by_cases hShort : packet.length < 40
      · rw [if_pos hShort, if_pos (.inl hShort)]
        exact ⟨none, rfl, absurd rfl, rfl⟩
      · rw [if_neg hShort, getElem?_eq_byteAt (by omega)]
        refine ⟨_, rfl, fun _ => ⟨by omega, fun _ => by omega⟩, ?_⟩
        by_cases hProtocol : byteAt packet 6 = 6
        · rw [if_neg (by simp [hShort, hProtocol])]
          simp [hProtocol]
        · rw [if_pos (.inr hProtocol)]
          simp [hProtocol]
    · rw [if_neg hSix, if_neg hSix]
      exact ⟨none, rfl, absurd rfl, rfl⟩

lemma clampTcpMss_eq (packet : Bytes) (maxInner : Nat) :
  clampTcpMss packet maxInner = some (outcome packet (Tun.clampTcpMss packet maxInner)) := by
  by_cases hEmpty : packet = []
  · rw [hEmpty]
    rfl
  have hFirst : 0 < packet.length := length_pos_iff.mpr hEmpty
  rcases header_eq hEmpty with ⟨h, hHeader, hHeaded, hStart⟩
  rw [clampTcpMss, if_neg hEmpty, getElem?_eq_byteAt hFirst, Tun.clampTcpMss, hStart]
  simp only [bind_eq_bind, bind_some, hHeader]
  cases h with
  | none => rfl
  | some r =>
    rcases r with ⟨tcp, protocol⟩
    have hHeaded := hHeaded (by simp)
    simp only [bind_some]
    by_cases hProtocol : protocol = 6
    · rw [if_pos hProtocol]
      by_cases hShort : packet.length < tcp + 20
      · simp only [hShort, or_true, if_true]
        rfl
      · rw [if_neg (by simp [hProtocol, hShort]), getElem?_eq_byteAt (by omega),
          getElem?_eq_byteAt (by omega)]
        simp only [if_neg hShort, bind_some]
        split
        next => rfl
        next =>
          split
          next => rfl
          next hOffset =>
            split
            next => rfl
            next =>
              have hEnd : tcp + (byteAt packet (tcp + 12) >>> 4).toNat * 4 ≤ packet.length := by
                omega
              exact walk_eq hHeaded hEnd (Nat.le_refl _)
    · rw [if_neg hProtocol, if_pos (.inl hProtocol)]
      rfl

end Checked

-- The First MSS Option

/- The options are read one after the other from `i` on. -/
inductive FirstMss (packet : Bytes) (stop : Nat) : Nat → Nat → Prop where
  | here {i : Nat} (hKind : byteAt packet i = 2)
    (hLength : byteAt packet (i + 1) = 4) (hWhole : i + 4 ≤ stop) : FirstMss packet stop i i
  | noOperation {i j : Nat} (hKind : byteAt packet i = 1)
    (hRest : FirstMss packet stop (i + 1) j) : FirstMss packet stop i j
  | other {i j : Nat} (hEnd : byteAt packet i ≠ 0) (hNone : byteAt packet i ≠ 1)
    (hKind : byteAt packet i ≠ 2) (hLength : 2 ≤ (byteAt packet (i + 1)).toNat)
    (hRest : FirstMss packet stop (i + (byteAt packet (i + 1)).toNat) j) :
    FirstMss packet stop i j

namespace FirstMss

variable {packet' : Bytes} {stop i j k : Nat}

lemma le (hFirst : FirstMss packet stop i j) : i ≤ j ∧ j + 4 ≤ stop := by
  induction hFirst with
  | here _ _ hWhole => exact ⟨Nat.le_refl _, hWhole⟩
  | noOperation _ _ ih | other _ _ _ _ _ ih => exact ⟨by omega, ih.2⟩

lemma iff_findMss : FirstMss packet stop i j ↔ findMss packet stop i = some j := by
  constructor
  · intro hFirst
    have hBounds := hFirst.le
    induction hFirst with
    | here hKind hLength =>
      rw [findMss, if_pos (by omega), hKind, if_neg (by decide), if_neg (by decide), if_pos rfl,
        if_neg (by simp [hLength]; omega)]
    | noOperation hKind hRest ih =>
      have hLe := hRest.le
      rw [findMss, if_pos (by omega), hKind, if_neg (by decide), if_pos rfl]
      exact ih hLe
    | other hEnd hNone hKind _ hRest ih =>
      have hLe := hRest.le
      rw [findMss, if_pos (by omega), if_neg hEnd, if_neg hNone, if_neg hKind, if_neg (by omega)]
      exact ih hLe
  · intro hFind
    fun_induction findMss packet stop i with
    | case1 | case3 | case5 | case7 => cases hFind
    | case2 _ _ _ hKind ih => exact .noOperation hKind (ih hFind)
    | case4 _ _ _ _ hKind hGood =>
      cases hFind
      rw [not_or, not_not] at hGood
      exact .here hKind hGood.1 (by omega)
    | case6 _ _ hZero hOne hTwo _ ih => exact .other hZero hOne hTwo (by omega) (ih hFind)

variable (hFirst : FirstMss packet stop i j)

include hFirst

lemma unique (hOther : FirstMss packet stop i k) : j = k := by
  rw [iff_findMss] at hFirst hOther
  exact Option.some.inj (hFirst.symm.trans hOther)

lemma congr (hSame : ∀ p, i ≤ p → p ≤ j + 1 → byteAt packet' p = byteAt packet p) :
  FirstMss packet' stop i j := by
  induction hFirst with
  | @here i hKind hLength hWhole =>
    refine .here ?_ ?_ hWhole
    · rw [hSame i (Nat.le_refl _) (by omega)]
      exact hKind
    · rw [hSame (i + 1) (by omega) (Nat.le_refl _)]
      exact hLength
  | @noOperation i j hKind hRest ih =>
    have hLe := hRest.le
    refine .noOperation ?_ (ih fun p hLow hHigh => hSame p (by omega) hHigh)
    rw [hSame i (Nat.le_refl _) (by omega)]
    exact hKind
  | @other i j hEnd hNone hKind hLength hRest ih =>
    have hLe := hRest.le
    have hFirst := hSame i (Nat.le_refl _) (by omega)
    have hSecond := hSame (i + 1) (by omega) (by omega)
    refine .other ?_ ?_ ?_ ?_ ?_
    · rw [hFirst]
      exact hEnd
    · rw [hFirst]
      exact hNone
    · rw [hFirst]
      exact hKind
    · rw [hSecond]
      exact hLength
    · rw [hSecond]
      exact ih fun p hLow hHigh => hSame p (by omega) hHigh

end FirstMss

-- Options That Are Too Large

/- The IP header says that a TCP header starts at `tcp`. -/
def TcpAt (packet : Bytes) (tcp : Nat) : Prop :=
  (version packet = 4 ∧ 20 ≤ packet.length ∧ byteAt packet 9 = 6 ∧ tcp = ihl packet) ∨
    (version packet = 6 ∧ 40 ≤ packet.length ∧ byteAt packet 6 = 6 ∧ tcp = 40)

lemma tcpStart_eq_some_iff {tcp : Nat} : tcpStart packet = some tcp ↔ TcpAt packet tcp := by
  rw [tcpStart, TcpAt]
  by_cases hEmpty : packet = []
  · rw [if_pos hEmpty, hEmpty]
    simp
  rw [if_neg hEmpty]
  by_cases hFour : version packet = 4
  · have hSix : (4 : UInt8) ≠ 6 := by decide
    rw [if_pos hFour, ite_none_left_eq_some,
      not_or, Nat.not_lt, not_not, some.injEq, and_assoc, eq_comm (b := tcp)]
    simp [hFour, hSix]
  · by_cases hSix : version packet = 6
    · have hOther : (6 : UInt8) ≠ 4 := by decide
      rw [if_neg hFour, if_pos hSix, ite_none_left_eq_some,
        not_or, Nat.not_lt, not_not, some.injEq, and_assoc, eq_comm (b := tcp)]
      simp [hSix, hOther]
    · rw [if_neg hFour, if_neg hSix]
      simp [hFour, hSix]

def dataOffset (packet : Bytes) (tcp : Nat) : Nat := (byteAt packet (tcp + 12) >>> 4).toNat * 4

/- A SYN whose first MSS option, at `i`, is too large. -/
structure Oversized (packet : Bytes) (maxInner tcp i : Nat) : Prop where
  segment : TcpAt packet tcp
  header_le : 20 ≤ dataOffset packet tcp
  le_length : tcp + dataOffset packet tcp ≤ packet.length
  syn : byteAt packet (tcp + 13) &&& 0x02 ≠ 0
  first : FirstMss packet (tcp + dataOffset packet tcp) (tcp + 20) i
  room : 60 < maxInner
  larger : maxInner - 60 < (u16At packet (i + 2)).toNat

def lowered (packet : Bytes) (maxInner tcp i : Nat) : Bytes :=
  recomputeTcpChecksum (splice packet (i + 2) (u16ToBe (UInt16.ofNat (maxInner - 60)))) tcp

lemma lowerMss_eq_some_iff {tcp i maxInner : Nat} (hFits : maxInner - 60 ≤ 65535) :
  lowerMss packet tcp i (UInt16.ofNat (maxInner - 60)) = some result ↔
  maxInner - 60 < (u16At packet (i + 2)).toNat ∧ result = lowered packet maxInner tcp i := by
  have hTarget : (UInt16.ofNat (maxInner - 60)).toNat = maxInner - 60 := by
    rw [UInt16.toNat_ofNat']
    omega
  rw [lowerMss, ite_none_left_eq_some,
    some.injEq, UInt16.le_iff_toNat_le, hTarget, Nat.not_le, eq_comm (b := result)]
  rfl

/- Exactly such packets are rewritten. -/
lemma clampTcpMss_eq_some_iff {maxInner : Nat} : clampTcpMss packet maxInner = some result ↔
  ∃ tcp i, Oversized packet maxInner tcp i ∧ result = lowered packet maxInner tcp i := by
  have hOverhead : ipTcpOverhead = 60 := rfl
  constructor
  · intro hClamp
    rw [clampTcpMss] at hClamp
    cases hStart : tcpStart packet with
    | none =>
      rw [hStart] at hClamp
      cases hClamp
    | some tcp =>
      rw [hStart] at hClamp
      simp only [ite_none_left_eq_some, bind_eq_some_iff, hOverhead] at hClamp
      rcases hClamp with ⟨hHeader, hSyn, _, _, i, hFind, hLower⟩
      rcases (lowerMss_eq_some_iff (by omega)).mp hLower with ⟨hLarger, hResult⟩
      exact ⟨tcp, i, ⟨tcpStart_eq_some_iff.mp hStart, by rw [dataOffset]; omega,
        by rw [dataOffset]; omega, hSyn,
        FirstMss.iff_findMss.mpr hFind, by omega, hLarger⟩,
        hResult⟩
  · rintro ⟨tcp, i, hOver, hResult⟩
    have hStart := tcpStart_eq_some_iff.mpr hOver.segment
    have hFind := FirstMss.iff_findMss.mp hOver.first
    have hHeader := hOver.header_le
    have hLength := hOver.le_length
    have hRoom := hOver.room
    have hLarger := hOver.larger
    have hLt := (u16At packet (i + 2)).toNat_lt
    have hLower := (lowerMss_eq_some_iff (by omega)).mpr ⟨hLarger, hResult⟩
    rw [dataOffset] at hHeader hLength hFind
    rw [clampTcpMss, hStart]
    simp only [ite_none_left_eq_some, bind_eq_some_iff, hOverhead]
    exact ⟨by omega, hOver.syn, by omega, by omega, i, hFind, hLower⟩

end Kourosh.Tun
