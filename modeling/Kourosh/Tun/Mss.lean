import Kourosh.Tun.Clamp

/-
  What the MSS clamp does to the packets it rewrites.

  The option holds the target, the sum over the segment is redone, and no other byte changes.

  Correctness is proven by:
    * `clamp_frame_and_effect`
    * `clamp_spares_other_traffic_iff`
-/

-- What Is Rewritten

namespace Kourosh.Tun

open Checksum
open Ip
open List

def addresses (packet : Bytes) : Bytes :=
  if version packet = 4 then slice packet 12 20
  else slice packet 8 40

lemma length_addresses_le (packet : Bytes) : (addresses packet).length ≤ 32 := by
  rw [addresses]
  split
  all_goals
    rw [slice, length_take]
    omega

variable {bytes packet : Bytes} {i : Nat}

lemma version_splice (hInside : i + bytes.length ≤ packet.length)
  (hFront : 0 < i) : version (splice packet i bytes) = version packet := by
  rw [version, version, byteAt_splice_of_outside hInside (.inl hFront)]

lemma addresses_splice (hInside : i + bytes.length ≤ packet.length) (hFront :
  if version packet = 4 then 20 ≤ i else 40 ≤ i) :
  addresses (splice packet i bytes) = addresses packet := by
  rw [addresses, addresses]
  split at hFront
  next hFour =>
    rw [version_splice hInside (by omega), if_pos hFour, if_pos hFour, slice_splice hInside hFront]
  next hOther =>
    rw [version_splice hInside (by omega), if_neg hOther,
      if_neg hOther, slice_splice hInside hFront]

def newSum (packet : Bytes) (tcp : Nat) : UInt32 :=
  onesComplementSum ((splice packet (tcp + 16) (u16ToBe 0)).drop tcp)
    (onesComplementSum (if version packet = 4 then
          slice (splice packet (tcp + 16) (u16ToBe 0)) 12 20
        else slice (splice packet (tcp + 16) (u16ToBe 0)) 8 40)
        0 +
      6 + UInt32.ofNat (packet.length - tcp))

lemma recomputeTcpChecksum_eq_splice
  {tcp : Nat} (hTcp : tcp + 18 ≤ packet.length) : recomputeTcpChecksum packet tcp =
  splice packet (tcp + 16) (u16ToBe (foldChecksum (newSum packet tcp))) := by
  have hInside : tcp + 16 + (u16ToBe 0).length ≤ packet.length := hTcp
  exact splice_splice hInside rfl

lemma allOnes_recompute (tcp : Nat) (hShort : packet.length ≤ 65535)
  (hTcp : tcp + 18 ≤ packet.length) (hFront : if version packet = 4 then 20 ≤ tcp else 40 ≤ tcp) :
  AllOnes (transportSum (addresses packet) 6 ((splice packet (tcp + 16)
    (u16ToBe (foldChecksum (newSum packet tcp)))).drop tcp)) := by
  have hInside : tcp + 16 + (u16ToBe 0).length ≤ packet.length := hTcp
  have hDrop : ∀ c, (splice packet (tcp + 16) (u16ToBe c)).drop tcp =
    (packet.drop tcp).take 16 ++ (u16ToBe c ++ packet.drop (tcp + 18)) := by
    intro c
    rw [drop_splice hTcp (by omega), Nat.add_sub_cancel_left]
    rfl
  have hSame : addresses (splice packet (tcp + 16) (u16ToBe 0)) = addresses packet := by
    refine addresses_splice hInside ?_
    split at hFront
    next hFour =>
      rw [if_pos hFour]
      omega
    next hOther =>
      rw [if_neg hOther]
      omega
  rw [addresses, version_splice hInside (by omega)] at hSame
  have hLength :
    packet.length - tcp = ((splice packet (tcp + 16) (u16ToBe 0)).drop tcp).length := by
    rw [length_drop, length_splice hInside]
  have hSum := toNat_segmentSum 6 ((splice packet (tcp + 16) (u16ToBe 0)).drop tcp)
    (length_addresses_le packet) (by decide)
    (by rw [← hLength]; omega)
  rw [← hLength] at hSum
  rw [hDrop]
  refine allOnes_segment ?_ ?_
  · rw [length_take, length_drop]
    omega
  · rw [toNat_foldChecksum, newSum, hSame, hSum, hDrop]
    rfl

structure Lowers (packet : Bytes) (maxInner : Nat) (result : Bytes) (tcp i : Nat) : Prop where
  was : Oversized packet maxInner tcp i
  now : (u16At result (i + 2)).toNat = maxInner - 60
  length_eq : result.length = packet.length
  frame :
    ∀ p, p ≠ i + 2 → p ≠ i + 3 → p ≠ tcp + 16 → p ≠ tcp + 17 → byteAt result p = byteAt packet p
  sum : AllOnes (transportSum (addresses result) 6 (result.drop tcp))

section Lowered

variable {maxInner tcp : Nat}
variable (hOver : Oversized packet maxInner tcp i)

include hOver

lemma Oversized.toNat_target : (UInt16.ofNat (maxInner - 60)).toNat = maxInner - 60 := by
  have hLarger := hOver.larger
  have hLt := (u16At packet (i + 2)).toNat_lt
  rw [UInt16.toNat_ofNat']
  omega

lemma Oversized.option_le (v : UInt16) : i + 2 + (u16ToBe v).length ≤ packet.length := by
  have hBounds := hOver.first.le
  have hEnd := hOver.le_length
  rw [show (u16ToBe v).length = 2 from rfl]
  omega

lemma Oversized.checksum_le (c : UInt16) : tcp + 16 + (u16ToBe c).length ≤ i + 2 := by
  have hBounds := hOver.first.le
  rw [show (u16ToBe c).length = 2 from rfl]
  omega

lemma toNat_u16At_lowered :
  (u16At (lowered packet maxInner tcp i) (i + 2)).toNat = maxInner - 60 := by
  have hOption := hOver.option_le (UInt16.ofNat (maxInner - 60))
  have hInside : ∀ c, tcp + 16 + (u16ToBe c).length ≤
    (splice packet (i + 2) (u16ToBe (UInt16.ofNat (maxInner - 60)))).length := by
    intro c
    have hFront := hOver.checksum_le c
    rw [length_splice hOption]
    omega
  rw [lowered, recomputeTcpChecksum_eq_splice (hInside 0), u16At_splice_of_outside
    (hInside _) (.inr (hOver.checksum_le _)), u16At_splice _ hOption, hOver.toNat_target]

lemma lowered_ne : lowered packet maxInner tcp i ≠ packet := by
  intro hSame
  have hNow := toNat_u16At_lowered hOver
  have hLarger := hOver.larger
  rw [hSame] at hNow
  omega

variable (hWide : version packet = 4 → 20 ≤ ihl packet)

include hWide

lemma Oversized.front {p : Nat} (hBehind : tcp ≤ p) :
  if version packet = 4 then 20 ≤ p else 40 ≤ p := by
  rcases hOver.segment with ⟨hFour, -, -, rfl⟩ | ⟨hSix, -, -, rfl⟩
  · rw [if_pos hFour]
    exact Nat.le_trans (hWide hFour) hBehind
  · rw [if_neg (by rw [hSix]; decide)]
    exact hBehind

lemma Oversized.twenty_le : 20 ≤ tcp := by
  have hFront := hOver.front hWide (Nat.le_refl _)
  split at hFront
  next => exact hFront
  next => omega

lemma lowers_lowered (hShort : packet.length ≤ 65535) :
  Lowers packet maxInner (lowered packet maxInner tcp i) tcp i := by
  have hNow := toNat_u16At_lowered hOver
  have hOption := hOver.option_le (UInt16.ofNat (maxInner - 60))
  rw [lowered] at hNow ⊢
  generalize UInt16.ofNat (maxInner - 60) = target at hNow hOption ⊢
  have hLength := length_splice hOption
  have hVersion := version_splice hOption (by omega)
  have hInside :
    ∀ c, tcp + 16 + (u16ToBe c).length ≤ (splice packet (i + 2) (u16ToBe target)).length := by
    intro c
    have hFront := hOver.checksum_le c
    rw [hLength]
    omega
  have hOnes := allOnes_recompute tcp (by rw [hLength]; exact hShort) (hInside 0) (by
    rw [hVersion]
    exact hOver.front hWide (Nat.le_refl _))
  have hTwo : ∀ v, (u16ToBe v).length = 2 := fun v => rfl
  rw [recomputeTcpChecksum_eq_splice (hInside 0)] at hNow ⊢
  refine ⟨hOver, hNow, ?_, ?_, ?_⟩
  · rw [length_splice (hInside _), hLength]
  · intro p hOne hThree hFive hSix
    rw [byteAt_splice_of_outside (hInside _) (by
      rw [hTwo]
      omega),
      byteAt_splice_of_outside hOption (by
        rw [hTwo]
        omega)]
  · rw [addresses_splice (hInside _) (by
      rw [hVersion]
      exact hOver.front hWide (by omega))]
    exact hOnes

end Lowered

namespace Lowers

variable {result : Bytes} {maxInner tcp : Nat}
variable (hLowers : Lowers packet maxInner result tcp i) (hTwenty : 20 ≤ tcp)

include hLowers hTwenty

lemma tcpAt {start : Nat} : TcpAt result start ↔ TcpAt packet start := by
  have hBounds := hLowers.was.first.le
  have hByte : ∀ p < 20, byteAt result p = byteAt packet p := by
    intro p hLt
    exact hLowers.frame p (by omega) (by omega) (by omega) (by omega)
  simp [TcpAt, version, ihl, hByte 0 (by omega), hByte 6 (by omega), hByte 9 (by omega),
    hLowers.length_eq]

lemma not_oversized {start j : Nat} : ¬ Oversized result maxInner start j := by
  intro hAgain
  have hBounds := hLowers.was.first.le
  have hStart : start = tcp := by
    have hSame := (hLowers.tcpAt hTwenty).mp hAgain.segment
    have hWas := hLowers.was.segment
    rw [← tcpStart_eq_some_iff] at hSame hWas
    exact Option.some.inj (hSame.symm.trans hWas)
  subst hStart
  have hOffset : dataOffset result start = dataOffset packet start := by
    rw [dataOffset, dataOffset, hLowers.frame (start + 12) (by omega) (by omega)
      (by omega) (by omega)]
  have hFirst : FirstMss result (start + dataOffset packet start) (start + 20) i :=
    hLowers.was.first.congr fun p hLow hHigh =>
      hLowers.frame p (by omega) (by omega) (by omega) (by omega)
  have hOther := hAgain.first
  rw [hOffset] at hOther
  have hSame := hOther.unique hFirst
  subst hSame
  have hLarger := hAgain.larger
  rw [hLowers.now] at hLarger
  exact Nat.lt_irrefl _ hLarger

end Lowers

-- Frame and Effect

/- The clamp never panics, changes nothing or lowers one option, and has no effect twice. -/
theorem clamp_frame_and_effect
    (packet : Bytes)
    (maxInner : Nat)
    (hShort : packet.length ≤ 65535)
    (hWide : version packet = 4 → 20 ≤ ihl packet) :
    ∃ changed result,
      Checked.clampTcpMss packet maxInner = some (changed, result) ∧
      (changed = false → result = packet) ∧
      (changed = true →
       60 < maxInner ∧
       (∃ tcp i, Lowers packet maxInner result tcp i) ∧
       Checked.clampTcpMss result maxInner = some (false, result)) := by
  rw [Checked.clampTcpMss_eq]
  cases hClamp : clampTcpMss packet maxInner with
  | none =>
    refine ⟨_, _, rfl, fun _ => rfl, ?_⟩
    exact nofun
  | some =>
    refine ⟨_, _, rfl, ?_, ?_⟩
    · exact nofun
    · intro hChanged
      rcases clampTcpMss_eq_some_iff.mp hClamp with ⟨tcp, i, hOver, rfl⟩
      have hLowers := lowers_lowered hOver hWide hShort
      have hTwenty := hOver.twenty_le hWide
      refine ⟨hOver.room, ⟨tcp, i, hLowers⟩, ?_⟩
      have hAgain : clampTcpMss (lowered packet maxInner tcp i) maxInner = none := by
        rw [Option.eq_none_iff_forall_ne_some]
        intro again hSome
        rcases clampTcpMss_eq_some_iff.mp hSome with ⟨start, j, hOther, -⟩
        exact hLowers.not_oversized hTwenty hOther
      rw [Checked.clampTcpMss_eq]
      exact congrArg (some ∘ Checked.outcome (lowered packet maxInner tcp i)) hAgain

/- A packet whose bytes are those of a SYN with an MSS of 1460. -/
def synBytes (high low : UInt8) : Bytes :=
  [0x45, 0x00, 0x00, 0x2c, 0x00, 0x01, high, low, 0x40, 0x06, 0x00, 0x00,
    0x0a, 0x00, 0x00, 0x02, 0x01, 0x01, 0x01, 0x01, 0x30, 0x39, 0x01, 0xbb, 0x00, 0x00, 0x00, 0x01,
    0x00, 0x00, 0x00, 0x00, 0x60, 0x02, 0xff, 0xff, 0x00, 0x00, 0x00, 0x00, 0x02, 0x04, 0x05, 0xb4]

lemma oversized_synBytes (high low : UInt8) : Oversized (synBytes high low) 1280 20 40 := by
  have hLength : (synBytes high low).length = 44 := rfl
  have hFirst : byteAt (synBytes high low) 0 = 0x45 := rfl
  have hVersion : version (synBytes high low) = 4 := by
    rw [version, hFirst]
    decide
  have hIhl : ihl (synBytes high low) = 20 := by
    rw [ihl, hFirst]
    decide
  have hWords : byteAt (synBytes high low) (20 + 12) = 0x60 := rfl
  have hOffset : dataOffset (synBytes high low) 20 = 24 := by
    rw [dataOffset, hWords]
    decide
  have hFlags : byteAt (synBytes high low) (20 + 13) = 0x02 := rfl
  have hHigh : byteAt (synBytes high low) (40 + 2) = 0x05 := rfl
  have hLow : byteAt (synBytes high low) (40 + 3) = 0xb4 := rfl
  have hMss : (u16At (synBytes high low) (40 + 2)).toNat = 1460 := by
    rw [u16At, hHigh, hLow]
    decide
  refine ⟨.inl ⟨hVersion, ?_, rfl, hIhl.symm⟩, ?_, ?_, ?_, ?_, ?_, ?_⟩
  · omega
  · omega
  · omega
  · rw [hFlags]
    decide
  · exact .here rfl rfl (by omega)
  all_goals omega

theorem clamp_lowers_a_syn : ∃ result tcp i, Checked.clampTcpMss (synBytes 0x40 0) 1280 =
  some (true, result) ∧ Lowers (synBytes 0x40 0) 1280 result tcp i := by
  rcases clamp_frame_and_effect (synBytes 0x40 0) 1280 (by decide) (by decide) with
    ⟨changed, result, hClamp, -, hEffect⟩
  have hChanged : changed := by
    have hSome := clampTcpMss_eq_some_iff.mpr ⟨20, 40, oversized_synBytes 0x40 0, rfl⟩
    rw [Checked.clampTcpMss_eq, hSome] at hClamp
    cases hClamp
    rfl
  subst hChanged
  rcases hEffect rfl with ⟨-, ⟨tcp, i, hLowers⟩, -⟩
  exact ⟨result, tcp, i, hClamp, hLowers⟩

-- Other Traffic

def fragmentOffset (packet : Bytes) : Nat := (u16At packet 6).toNat % 8192

/- An IPv4 header of at least five words, inside the length of the packet, of a first fragment. -/
def ProperHeader (packet : Bytes) : Prop := version packet = 4 →
  20 ≤ ihl packet ∧ fragmentOffset packet = 0 ∧ ihl packet ≤ (u16At packet 2).toNat

def RealSegment (packet : Bytes) : Prop := (∃ tcp, TcpAt packet tcp) ∧ ProperHeader packet

lemma clamped_ne_iff {maxInner : Nat} :
  clamped packet maxInner ≠ packet ↔ ∃ tcp i, Oversized packet maxInner tcp i := by
  constructor
  · intro hChanged
    rw [clamped] at hChanged
    cases hClamp : clampTcpMss packet maxInner with
    | none =>
      rw [hClamp] at hChanged
      exact absurd rfl hChanged
    | some =>
      rcases clampTcpMss_eq_some_iff.mp hClamp with ⟨tcp, i, hOver, -⟩
      exact ⟨tcp, i, hOver⟩
  · rintro ⟨tcp, i, hOver⟩
    rw [clamped, clampTcpMss_eq_some_iff.mpr ⟨tcp, i, hOver, rfl⟩]
    exact lowered_ne hOver

/-
  Only real segments are modified exactly if the header is a proper one or the bytes behind it do
  not look like a SYN with a large option.
-/
theorem clamp_spares_other_traffic_iff
    (packet : Bytes)
    (maxInner : Nat) :
    (¬ RealSegment packet → clamped packet maxInner = packet) ↔
      ProperHeader packet ∨ ∀ tcp i, ¬ Oversized packet maxInner tcp i := by
  constructor
  · intro hSpares
    by_cases hProper : ProperHeader packet
    · exact .inl hProper
    · refine .inr fun tcp i hOver => ?_
      exact clamped_ne_iff.mpr ⟨tcp, i, hOver⟩ (hSpares fun hReal => hProper hReal.2)
  · intro hOnly hNot
    by_contra hChanged
    rcases clamped_ne_iff.mp hChanged with ⟨tcp, i, hOver⟩
    rcases hOnly with hProper | hNone
    · exact hNot ⟨⟨tcp, hOver.segment⟩, hProper⟩
    · exact hNone tcp i hOver

/- A later fragment whose bytes are those of a SYN. -/
theorem later_fragment_is_modified : ¬ RealSegment (synBytes 0x00 0x02) ∧
  clamped (synBytes 0x00 0x02) 1280 ≠ synBytes 0x00 0x02 := by
  constructor
  · intro hReal
    exact absurd (hReal.2 rfl).2.1 (by decide)
  · exact clamped_ne_iff.mpr ⟨20, 40, oversized_synBytes 0x00 0x02⟩

end Kourosh.Tun
