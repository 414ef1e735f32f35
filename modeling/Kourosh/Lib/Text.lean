import Mathlib.Algebra.Ring.Nat
import Mathlib.Data.List.DropRight
import Mathlib.Data.List.Infix

/-
  Text as a list of characters: white space, fronts of a text and decimal numbers.
-/

-- White Space

namespace Text

open List

def isWhitespace (c : Char) : Bool :=
  let n := c.toNat
  (9 ≤ n && n ≤ 13) || n == 0x20 || n == 0x85 || n == 0xA0 ||
    n == 0x1680 || (0x2000 ≤ n && n ≤ 0x200A) ||
    n == 0x2028 || n == 0x2029 || n == 0x202F ||
    n == 0x205F || n == 0x3000

def trim (text : List Char) : List Char := (text.dropWhile isWhitespace).rdropWhile isWhitespace

lemma trim_trim (text : List Char) : trim (trim text) = trim text := by
  have hHead : (trim text).dropWhile isWhitespace = trim text := by
    -- the first character that is left is no blank
    rw [dropWhile_eq_self_iff]
    intro hLength
    have hFront : trim text <+: text.dropWhile isWhitespace := rdropWhile_prefix _ _
    rw [hFront.getElem hLength]
    have hPos := lt_of_lt_of_le hLength hFront.length_le
    exact dropWhile_eq_self_iff.mp (dropWhile_idempotent _ _) hPos
  rw [trim, hHead]
  exact rdropWhile_idempotent _ _

def splitWhitespace (text : List Char) : List (List Char) :=
  (text.splitOnP isWhitespace).filter fun word => !word.isEmpty

def isVisible (c : Char) : Bool := 0x21 ≤ c.toNat && c.toNat ≤ 0x7E

variable {c : Char}

lemma isWhitespace_of_isVisible (hVisible : isVisible c) : isWhitespace c = false := by
  simp only [isVisible, Bool.and_eq_true, decide_eq_true_eq] at hVisible
  simp only [isWhitespace,
    Bool.or_eq_false_iff, Bool.and_eq_false_iff, decide_eq_false_iff_not, beq_eq_false_iff_ne]
  omega

section Words

variable {word : List Char} (hWord : ∀ c ∈ word, isVisible c = true)
include hWord

lemma trim_of_isVisible : trim word = word := by
  have hFront : word.dropWhile isWhitespace = word := by
    rw [dropWhile_eq_self_iff]
    intro hLength
    rw [isWhitespace_of_isVisible (hWord _ (getElem_mem hLength))]
    exact Bool.false_ne_true
  rw [trim, hFront, rdropWhile_eq_self_iff]
  intro hNe
  rw [isWhitespace_of_isVisible (hWord _ (getLast_mem hNe))]
  exact Bool.false_ne_true

lemma splitWhitespace_of_isVisible (hNe : word ≠ []) : splitWhitespace word = [word] := by
  have hNone : ∀ c ∈ word, isWhitespace c = false :=
    fun c hMem => isWhitespace_of_isVisible (hWord c hMem)
  rw [splitWhitespace, splitOnP_eq_singleton hNone]
  simp [hNe]

lemma splitWhitespace_append_cons (hNe : word ≠ []) (rest : List Char) :
  splitWhitespace (word ++ ' ' :: rest) = word :: splitWhitespace rest := by
  have hNone : ∀ c ∈ word, isWhitespace c = false :=
    fun c hMem => isWhitespace_of_isVisible (hWord c hMem)
  have hBlank : isWhitespace ' ' := by decide
  rw [splitWhitespace, splitOnP_append_cons_of_forall_mem hNone ' ' hBlank]
  simp [splitWhitespace, hNe]

end Words

-- Separators

section Separators

variable {α : Type} {a b s t : List α} {x : α}

lemma append_cons_inj
  (hLeft : x ∉ a) (hRight : x ∉ b) (hEq : a ++ x :: s = b ++ x :: t) : a = b ∧ s = t := by
  induction a generalizing b with
  | nil =>
    cases b with
    | nil => exact ⟨rfl, (List.cons.inj hEq).2⟩
    | cons y =>
      have hHead : x = y := (List.cons.inj hEq).1
      exact absurd (hHead ▸ mem_cons_self) hRight
  | cons y a ih =>
    cases b with
    | nil =>
      have hHead : y = x := (List.cons.inj hEq).1
      exact absurd (hHead ▸ mem_cons_self) hLeft
    | cons z b =>
      rcases List.cons.inj hEq with ⟨rfl, hTail⟩
      have hLeft' : x ∉ a := fun hMem => hLeft (mem_cons_of_mem y hMem)
      have hRight' : x ∉ b := fun hMem => hRight (mem_cons_of_mem y hMem)
      rcases ih hLeft' hRight' hTail with ⟨rfl, rfl⟩
      exact ⟨rfl, rfl⟩

variable [DecidableEq α]

lemma takeWhile_append_cons (hLeft : x ∉ a) : (a ++ x :: s).takeWhile (· ≠ x) = a := by
  rw [takeWhile_append_of_pos]
  · simp
  · intro y hMem
    rw [decide_eq_true_iff]
    rintro rfl
    exact hLeft hMem

lemma dropWhile_append_cons (hLeft : x ∉ a) : (a ++ x :: s).dropWhile (· ≠ x) = x :: s := by
  rw [dropWhile_append_of_pos]
  · simp
  · intro y hMem
    rw [decide_eq_true_iff]
    rintro rfl
    exact hLeft hMem

lemma splitOn_cons_cases
  (x c : α) (rest : List α) : (c = x ∧ (c :: rest).splitOn x = [] :: rest.splitOn x) ∨ c ≠ x ∧
  ∃ head tail, rest.splitOn x = head :: tail ∧ (c :: rest).splitOn x = (c :: head) :: tail := by
  rw [List.splitOn, splitOnP_cons_eq_if_modifyHead]
  by_cases hSep : c = x
  · exact .inl ⟨hSep, by simp [hSep, List.splitOn]⟩
  · right
    cases hRest : rest.splitOn x with
    | nil => exact absurd hRest (splitOn_ne_nil _ _)
    | cons head tail =>
      refine ⟨hSep, head, tail, rfl, ?_⟩
      rw [List.splitOn] at hRest
      simp [hSep, hRest]

lemma of_mem_splitOn {piece : List α} (hMem : piece ∈ s.splitOn x) :
  x ∉ piece ∧ piece.length ≤ s.length := by
  induction s generalizing piece with
  | nil => simp_all
  | cons c rest ih =>
    rcases splitOn_cons_cases x c rest with ⟨rfl, hSplit⟩ | ⟨hOther, head, tail, hRest, hSplit⟩
    · rw [hSplit] at hMem
      rcases mem_cons.mp hMem with rfl | hTail
      · simp
      · have hPiece := ih hTail
        exact ⟨hPiece.1, Nat.le_succ_of_le hPiece.2⟩
    · rw [hSplit] at hMem
      rcases mem_cons.mp hMem with rfl | hTail
      · have hPiece := ih (hRest ▸ mem_cons_self)
        refine ⟨?_, Nat.succ_le_succ hPiece.2⟩
        rw [mem_cons, not_or]
        exact ⟨Ne.symm hOther, hPiece.1⟩
      · have hPiece := ih (hRest ▸ mem_cons_of_mem head hTail)
        exact ⟨hPiece.1, Nat.le_succ_of_le hPiece.2⟩

lemma of_nil_mem_tail_splitOn (hMem : [] ∈ (s.splitOn x).tail) :
  s.getLast? = some x ∨ [x, x] <:+: s := by
  induction s with
  | nil => simp at hMem
  | cons c rest ih =>
    have hLift : rest.getLast? = some x ∨
      [x, x] <:+: rest → (c :: rest).getLast? = some x ∨ [x, x] <:+: c :: rest := by
      rintro (hLast | hInfix)
      · exact .inl (by simp [getLast?_cons, hLast])
      · exact .inr (infix_cons hInfix)
    rcases splitOn_cons_cases x c rest with ⟨rfl, hSplit⟩ | ⟨-, head, tail, hRest, hSplit⟩
    · rw [hSplit, tail_cons] at hMem
      cases rest with
      | nil => exact .inl rfl
      | cons d rest =>
        rcases splitOn_cons_cases c d rest with ⟨rfl, _⟩ | ⟨-, head, tail, _, hSplit⟩
        · exact .inr ⟨[], rest, rfl⟩
        · apply hLift (ih _)
          rw [hSplit] at hMem ⊢
          simpa using hMem
    · apply hLift (ih _)
      rw [hSplit] at hMem
      rw [hRest]
      exact hMem

lemma nil_notMem_splitOn (hNe : s ≠ []) (hHead : s.head? ≠ some x)
  (hLast : s.getLast? ≠ some x) (hPair : ¬ [x, x] <:+: s) : [] ∉ s.splitOn x := by
  intro hMem
  cases s with
  | nil => exact hNe rfl
  | cons c rest =>
    rcases splitOn_cons_cases x c rest with ⟨rfl, _⟩ | ⟨-, head, tail, _, hSplit⟩
    · exact hHead rfl
    · have hTail : [] ∈ ((c :: rest).splitOn x).tail := by
        rw [hSplit] at hMem ⊢
        simpa using hMem
      exact (of_nil_mem_tail_splitOn hTail).elim hLast hPair

end Separators

-- Fronts And Numbers

def stripFront (front : String) (text : List Char) : Option (List Char) :=
  front.toList.isPrefixOf? text

lemma stripFront_append (front : String) (rest : List Char) :
  stripFront front (front.toList ++ rest) = some rest := by
  rw [stripFront]
  induction front.toList with
  | nil => rfl
  | cons _ _ ih => simp [List.isPrefixOf?, ih]

def parseDigits : Nat → List Char → Option Nat
| value, [] => some value
| value, c :: rest => if c.isDigit then parseDigits (value * 10 + (c.toNat - 48)) rest else none

def parseU16 (text : List Char) : Option UInt16 :=
  let digits := (stripFront "+" text).getD text
  if digits.isEmpty then none
  else
    match parseDigits 0 digits with
    | none => none
    | some value => if value < 65536 then some (UInt16.ofNat value) else none

def decimal (digits : List Char) : Nat :=
  digits.foldl (fun value c => value * 10 + (c.toNat - 48)) 0

lemma toNat_of_isDigit (hDigit : c.isDigit) : 48 ≤ c.toNat ∧ c.toNat ≤ 57 := by
  simp only [Char.isDigit, Bool.and_eq_true, decide_eq_true_eq] at hDigit
  exact ⟨hDigit.1, hDigit.2⟩

lemma isVisible_of_isDigit (hDigit : c.isDigit) : isVisible c := by
  have hRange := toNat_of_isDigit hDigit
  simp only [isVisible, Bool.and_eq_true, decide_eq_true_eq]
  omega

section Digits

variable {digits : List Char} (hDigits : ∀ c ∈ digits, c.isDigit = true)
include hDigits

lemma parseDigits_of_isDigit (value : Nat) : parseDigits value digits =
  some (digits.foldl (fun value c => value * 10 + (c.toNat - 48)) value) := by
  induction digits generalizing value with
  | nil => rfl
  | cons c _ ih =>
    rw [parseDigits, if_pos (hDigits c mem_cons_self), foldl_cons]
    exact ih (fun d hMem => hDigits d (mem_cons_of_mem c hMem)) _

lemma foldl_digits_lt (value : Nat) : digits.foldl
  (fun value c => value * 10 + (c.toNat - 48)) value < (value + 1) * 10 ^ digits.length := by
  induction digits generalizing value with
  | nil => simp
  | cons c rest ih =>
    have hRange := toNat_of_isDigit (hDigits c mem_cons_self)
    have hRest := ih (fun d hMem => hDigits d (mem_cons_of_mem c hMem))
      (value * 10 + (c.toNat - 48))
    rw [foldl_cons, length_cons, Nat.pow_succ']
    calc
      _ < (value * 10 + (c.toNat - 48) + 1) * 10 ^ rest.length := hRest
      _ ≤ ((value + 1) * 10) * 10 ^ rest.length := Nat.mul_le_mul_right _ (by omega)
      _ = (value + 1) * (10 * 10 ^ rest.length) := Nat.mul_assoc _ _ _

/- The number is bounded by how many digits it has. -/
lemma decimal_lt : decimal digits < 10 ^ digits.length := by
  simpa [decimal] using foldl_digits_lt hDigits 0

lemma parseU16_of_isDigit : parseU16 digits = if digits.isEmpty then none
  else if decimal digits < 65536 then some (UInt16.ofNat (decimal digits))
  else none := by
  have hPlain : stripFront "+" digits = none := by
    cases digits with
    | nil => rfl
    | cons c =>
      have hPlus : ('+' == c) = false := by
        rw [beq_eq_false_iff_ne]
        rintro rfl
        exact Bool.false_ne_true (hDigits '+' mem_cons_self)
      simp [stripFront, List.isPrefixOf?, hPlus]
  simp only [parseU16, hPlain, Option.getD_none, parseDigits_of_isDigit hDigits]
  rfl

lemma toNat_of_parseU16
  {number : UInt16} (hParse : parseU16 digits = some number) : number.toNat = decimal digits := by
  rw [parseU16_of_isDigit hDigits] at hParse
  split at hParse
  · cases hParse
  · split at hParse
    next hLt =>
      cases hParse
      rw [UInt16.toNat_ofNat', Nat.mod_eq_of_lt hLt]
    · cases hParse

end Digits

-- Letter Case

lemma toNat_toLower (c : Char) : c.toLower.toNat =
  if 65 ≤ c.toNat ∧ c.toNat ≤ 90 then c.toNat + 32 else c.toNat := by
  have hUpper : (c.val ≥ 'A'.val ∧ c.val ≤ 'Z'.val) ↔ 65 ≤ c.toNat ∧ c.toNat ≤ 90 := by
    simp only [ge_iff_le, UInt32.le_iff_toNat_le]
    exact Iff.rfl
  unfold Char.toLower
  split
  next hLetter =>
    have hRange := hUpper.mp hLetter
    have hVal : c.val.toNat = c.toNat := rfl
    have hGap : ('a'.val - 'A'.val).toNat = 32 := rfl
    rw [if_pos hRange]
    change (c.val + ('a'.val - 'A'.val)).toNat = c.toNat + 32
    rw [UInt32.toNat_add, hGap]
    omega
  next hOther => rw [if_neg (mt hUpper.mpr hOther)]

lemma eq_of_toLower_eq {x : Char} (hOther : x.toNat < 97 ∨ 122 < x.toNat)
  (hLower : c.toLower = x) : c = x := by
  have hNat := toNat_toLower c
  rw [hLower] at hNat
  apply Char.toNat_inj.mp
  split at hNat <;> omega

lemma toLower_toLower (c : Char) : c.toLower.toLower = c.toLower := by
  apply Char.toNat_inj.mp
  rw [toNat_toLower c.toLower, toNat_toLower c]
  split_ifs <;> omega

lemma toLower_of_isDigit (hDigit : c.isDigit) : c.toLower = c := by
  have hRange := toNat_of_isDigit hDigit
  apply Char.toNat_inj.mp
  rw [toNat_toLower, if_neg (by omega)]

end Text
