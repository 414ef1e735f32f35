import Mathlib.Data.List.Basic
import Mathlib.Data.Nat.ModEq

/-
  The checksum of the Internet protocols.

  Bytes are summed up as 16-bit words, a last odd byte as the high half of one, and carries are
  added back in at the low end.
-/

-- Sums Of Words

namespace Checksum

open List

def words : List UInt8 → Nat
| [] => 0
| [b] => b.toNat * 256
| hi :: lo :: rest => hi.toNat * 256 + lo.toNat + words rest

variable {x : List UInt8}

lemma words_append (hEven : x.length % 2 = 0) (y : List UInt8) :
  words (x ++ y) = words x + words y := by
  induction x using words.induct with
  | case1 => rw [nil_append, words, Nat.zero_add]
  | case2 => cases hEven
  | case3 _ _ rest ih =>
    have hRest : rest.length % 2 = 0 := by
      simp only [length_cons] at hEven
      omega
    rw [cons_append, cons_append, words, words, ih hRest]
    omega

/- A string of `n` bytes stays below `n / 2` full words. -/
lemma words_le (x : List UInt8) : words x ≤ 65535 * ((x.length + 1) / 2) := by
  induction x using words.induct with
  | case1 => exact Nat.zero_le _
  | case2 b =>
    have hLt := b.toNat_lt
    rw [words, length_singleton]
    omega
  | case3 hi lo =>
    have hHi := hi.toNat_lt
    have hLo := lo.toNat_lt
    rw [words, length_cons, length_cons]
    omega

-- Carries

def fold (sum : Nat) : Nat :=
  if sum / 65536 = 0 then sum
  else fold (sum % 65536 + sum / 65536)
termination_by sum
decreasing_by omega

lemma fold_le (sum : Nat) : fold sum ≤ 65535 := by
  fun_induction fold sum with
  | case1 => omega
  | case2 _ _ ih => exact ih

lemma fold_mod (sum : Nat) : fold sum % 65535 = sum % 65535 := by
  fun_induction fold sum with
  | case1 => rfl
  | case2 _ _ ih =>
    rw [ih]
    omega

lemma fold_pos {sum : Nat} (hPos : 0 < sum) : 0 < fold sum := by
  fun_induction fold sum with
  | case1 => exact hPos
  | case2 _ _ ih => exact ih (by omega)

lemma fold_zero : fold 0 = 0 := by rw [fold, if_pos rfl]

def AllOnes (sum : Nat) : Prop := fold sum = 65535

lemma allOnes_iff {sum : Nat} : AllOnes sum ↔ 0 < sum ∧ sum % 65535 = 0 := by
  have hLe := fold_le sum
  have hMod := fold_mod sum
  constructor
  · intro hAll
    rw [AllOnes] at hAll
    refine ⟨?_, by omega⟩
    rcases Nat.eq_zero_or_pos sum with hZero | hPos
    · rw [hZero, fold_zero] at hAll
      cases hAll
    · exact hPos
  · intro hSum
    have hPos := fold_pos hSum.1
    rw [AllOnes]
    omega

def complement (sum : Nat) : Nat := 65535 - fold sum

lemma allOnes_add_complement (sum : Nat) : AllOnes (complement sum + sum) := by
  have hLe := fold_le sum
  have hMod := fold_mod sum
  rw [allOnes_iff, complement]
  refine ⟨?_, by omega⟩
  rcases Nat.eq_zero_or_pos sum with hZero | _
  · rw [hZero, fold_zero]
    decide
  · omega

end Checksum
