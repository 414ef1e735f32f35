import Kourosh.Lib.Text

/-
  Texts as the class libraries of Java and Kotlin see them.

  A text is the list of its characters.
-/

-- Characters

namespace Jvm

open List

def digitBlocks : List Nat :=
  [0x0030,
    0x0660, 0x06F0, 0x07C0, 0x0966, 0x09E6, 0x0A66, 0x0AE6, 0x0B66, 0x0BE6, 0x0C66, 0x0CE6, 0x0D66,
    0x0DE6, 0x0E50, 0x0ED0, 0x0F20, 0x1040, 0x1090, 0x17E0, 0x1810, 0x1946, 0x19D0, 0x1A80, 0x1A90,
    0x1B50, 0x1BB0, 0x1C40, 0x1C50, 0xA620, 0xA8D0, 0xA900, 0xA9D0, 0xA9F0, 0xAA50, 0xABF0, 0xFF10]

def digit (c : Char) : Option Nat := (digitBlocks.find? fun first =>
  decide (first ≤ c.toNat) && decide (c.toNat < first + 10)
  ).map fun first => c.toNat - first

def isDigit (c : Char) : Bool := (digit c).isSome

def isWhitespace (c : Char) : Bool :=
  let n := c.toNat
  (9 ≤ n && n ≤ 13) || (0x1C ≤ n && n ≤ 0x20) ||
    n == 0xA0 || n == 0x1680 || (0x2000 ≤ n && n ≤ 0x200A) ||
    n == 0x2028 || n == 0x2029 || n == 0x202F ||
    n == 0x205F || n == 0x3000

def trim (text : List Char) : List Char := (text.dropWhile isWhitespace).rdropWhile isWhitespace

-- Numbers

def parseDigits : Nat → List Char → Option Nat
| value, [] => some value
| value, c :: rest =>
  match digit c with
  | none => none
  | some d => parseDigits (value * 10 + d) rest

def magnitude (bound : Nat) (digits : List Char) : Option Nat :=
  if digits.isEmpty then none
  else
    match parseDigits 0 digits with
    | none => none
    | some value => if value ≤ bound then some value else none

def toIntOrNull : List Char → Option Int
| '-' :: digits => (magnitude (2 ^ 31) digits).map fun value => -(value : Int)
| '+' :: digits => (magnitude (2 ^ 31 - 1) digits).map fun value => (value : Int)
| digits => (magnitude (2 ^ 31 - 1) digits).map fun value => (value : Int)

lemma digit_of_isDigit {c : Char} (hDigit : c.isDigit) : digit c = some (c.toNat - 48) := by
  rcases Text.toNat_of_isDigit hDigit with ⟨hLow, _⟩
  have hHigh' : c.toNat < 48 + 10 := by omega
  simp [digit, digitBlocks, hLow, hHigh']

variable {text : List Char} (hText : ∀ c ∈ text, c.isDigit = true)
include hText

lemma parseDigits_of_isDigit (value : Nat) : parseDigits value text =
  some (text.foldl (fun value c => value * 10 + (c.toNat - 48)) value) := by
  induction text generalizing value with
  | nil => rfl
  | cons c _ ih =>
    have hChar : c.isDigit := hText c mem_cons_self
    have hDigit : digit c = some (c.toNat - 48) := digit_of_isDigit hChar
    rw [parseDigits, hDigit, foldl_cons]
    exact ih (fun c' hMem => hText c' (mem_cons_of_mem _ hMem)) _

/- A text of at most nine digits is the number it spells. -/
lemma toIntOrNull_of_isDigit (hNe : text ≠ [])
  (hValue : Text.decimal text < 2 ^ 31) : toIntOrNull text = some (Text.decimal text : Int) := by
  have hParse := parseDigits_of_isDigit hText 0
  have hMagnitude : magnitude (2 ^ 31 - 1) text = some (Text.decimal text) := by
    have hLe : Text.decimal text ≤ 2 ^ 31 - 1 := by omega
    rw [magnitude, if_neg (by simpa using hNe), hParse]
    exact if_pos hLe
  cases text with
  | nil => exact absurd rfl hNe
  | cons c rest =>
    have hChar : c.isDigit := hText c mem_cons_self
    have hMinus : c ≠ '-' := by
      rintro rfl
      cases hChar
    have hPlus : c ≠ '+' := by
      rintro rfl
      cases hChar
    unfold toIntOrNull
    split
    next hEq =>
      cases hEq
      exact absurd rfl hMinus
    next hEq =>
      cases hEq
      exact absurd rfl hPlus
    · rw [hMagnitude]
      rfl

end Jvm
