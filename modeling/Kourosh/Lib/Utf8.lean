import Mathlib.Data.List.Basic

/-
  ASCII text as bytes, and UTF-8 read off the front of a byte string.

  A front is either one encoded character, or the longest piece of one, which a lossy decoder
  replaces as a whole.

  Main declarations
    * `utf8Front` : the first character or piece of a byte string
    * `utf8Lossy` : the lossy decoder, as UTF-8 again
    * `utf8Decode` : the decoder that fails at a piece

  Correctness is proven by:
    * `utf8Lossy_eq_self_iff`
    * `utf8Lossy_append_ascii`
    * `utf8Lossy_of_cut`
-/

-- ASCII

def ascii (text : String) : List UInt8 := text.toList.map fun c => UInt8.ofNat c.toNat

/- Letter case on bytes. -/
def asciiLower (byte : UInt8) : UInt8 := if 65 ≤ byte ∧ byte ≤ 90 then byte + 32 else byte

def eqIgnoreAsciiCase (a b : List UInt8) : Bool := a.map asciiLower == b.map asciiLower

lemma length_eq_of_eqIgnoreAsciiCase
  {a b : List UInt8} (hEq : eqIgnoreAsciiCase a b) : a.length = b.length := by
  have hMap : a.map asciiLower = b.map asciiLower := by simpa [eqIgnoreAsciiCase] using hEq
  simpa using congrArg List.length hMap

-- One Character

def isContinuation (byte : UInt8) : Bool := byte &&& 0xC0 == 0x80

def secondOfThree (first second : UInt8) : Bool :=
  if first = 0xE0 then 0xA0 ≤ second && second ≤ 0xBF
  else if first = 0xED then 0x80 ≤ second && second ≤ 0x9F
  else 0x80 ≤ second && second ≤ 0xBF

def secondOfFour (first second : UInt8) : Bool :=
  if first = 0xF0 then 0x90 ≤ second && second ≤ 0xBF
  else if first = 0xF4 then 0x80 ≤ second && second ≤ 0x8F
  else 0x80 ≤ second && second ≤ 0xBF

/-
  Whether the string starts with a whole character, and the number of bytes of the character or of
  its piece.
-/
def utf8Front (first : UInt8) (rest : List UInt8) : Bool × Nat :=
  -- bytes past the end count as zero, which continues nothing
  let b₁ := rest.getD 0 0
  let b₂ := rest.getD 1 0
  let b₃ := rest.getD 2 0
  if first < 0x80 then (true, 1)
  else if 0xC2 ≤ first ∧ first ≤ 0xDF then if isContinuation b₁ then (true, 2) else (false, 1)
  else if 0xE0 ≤ first ∧ first ≤ 0xEF then
    if !secondOfThree first b₁ then (false, 1)
    else if isContinuation b₂ then (true, 3)
    else (false, 2)
  else if 0xF0 ≤ first ∧ first ≤ 0xF4 then
    if !secondOfFour first b₁ then (false, 1)
    else if !isContinuation b₂ then (false, 2)
    else if isContinuation b₃ then (true, 4)
    else (false, 3)
  else (false, 1)

-- Byte Strings

def replacementBytes : List UInt8 := [0xEF, 0xBF, 0xBD]

def utf8LossyFrom : Nat → List UInt8 → List UInt8
| _, [] => []
| skip + 1, _ :: rest => utf8LossyFrom skip rest
| 0, first :: rest =>
  let front := utf8Front first rest
  (if front.1 then (first :: rest).take front.2 else replacementBytes) ++
    utf8LossyFrom (front.2 - 1) rest

def utf8Lossy (bytes : List UInt8) : List UInt8 := utf8LossyFrom 0 bytes

def utf8Char (first : UInt8) (rest : List UInt8) (length : Nat) : Char :=
  let low (i : Nat) : Nat := (rest.getD i 0).toNat % 64
  match length with
  | 1 => Char.ofNat first.toNat
  | 2 => Char.ofNat (first.toNat % 32 * 64 + low 0)
  | 3 => Char.ofNat ((first.toNat % 16 * 64 + low 0) * 64 + low 1)
  | _ => Char.ofNat (((first.toNat % 8 * 64 + low 0) * 64 + low 1) * 64 + low 2)

def utf8DecodeFrom : Nat → List UInt8 → Option (List Char)
| _, [] => some []
| skip + 1, _ :: rest => utf8DecodeFrom skip rest
| 0, first :: rest =>
  let front := utf8Front first rest
  if front.1 then (utf8DecodeFrom (front.2 - 1) rest).map (utf8Char first rest front.2 :: ·)
  else none

def utf8Decode (bytes : List UInt8) : Option (List Char) := utf8DecodeFrom 0 bytes

-- What Lossy Decoding Changes

section

variable (first : UInt8) (rest : List UInt8)

lemma utf8Front_pos : 0 < (utf8Front first rest).2 := by
  unfold utf8Front
  simp only
  split_ifs <;> decide

lemma drop_utf8Front :
  rest.drop ((utf8Front first rest).2 - 1) = (first :: rest).drop (utf8Front first rest).2 := by
  rcases Nat.exists_eq_succ_of_ne_zero
    (Nat.pos_iff_ne_zero.mp (utf8Front_pos first rest)) with ⟨n, hLength⟩
  rw [hLength]
  rfl

end

lemma utf8Front_replacement (rest : List UInt8) : (utf8Front 0xEF (0xBF :: 0xBD :: rest)).1 := by
  simp only [utf8Front, List.getD_cons_zero, List.getD_cons_succ]
  rw [if_neg (by decide), if_neg (by decide), if_pos (by decide),
    if_neg (by decide), if_pos (by decide)]

lemma utf8Front_covers {first : UInt8} {rest : List UInt8} {i : Nat}
  (hLt : i + 1 < (utf8Front first rest).2) : 0x80 ≤ rest.getD i 0 := by
  have hAll : ∀ n : Fin 256, isContinuation (UInt8.ofNat n) → 0x80 ≤ UInt8.ofNat n := by
    decide +kernel
  have hMore (i : Nat) : isContinuation (rest.getD i 0) → 0x80 ≤ rest.getD i 0 := by
    have hByte := hAll ⟨(rest.getD i 0).toNat, UInt8.toNat_lt _⟩
    rwa [UInt8.ofNat_toNat] at hByte
  have hThree : secondOfThree first (rest.getD 0 0) → 0x80 ≤ rest.getD 0 0 := by
    unfold secondOfThree
    grind
  have hFour : secondOfFour first (rest.getD 0 0) → 0x80 ≤ rest.getD 0 0 := by
    unfold secondOfFour
    grind
  unfold utf8Front at hLt
  match i with
  | 0 => grind
  | 1 => grind
  | 2 => grind
  | i + 3 => grind

lemma utf8LossyFrom_eq (skip : Nat) (bytes : List UInt8) :
  utf8LossyFrom skip bytes = utf8Lossy (bytes.drop skip) := by
  induction skip generalizing bytes with
  | zero => rfl
  | succ _ ih =>
    cases bytes with
    | nil => rfl
    | cons _ rest => exact ih rest

variable {bytes : List UInt8} {byte : UInt8}

lemma mem_utf8LossyFrom {skip : Nat}
  (hMem : byte ∈ utf8LossyFrom skip bytes) : byte ∈ bytes ∨ byte ∈ replacementBytes := by
  fun_induction utf8LossyFrom skip bytes with
  | case1 => cases hMem
  | case2 _ first _ ih => exact (ih hMem).imp_left (List.mem_cons_of_mem first)
  | case3 first _ _ ih =>
    rcases List.mem_append.mp hMem with hFront | hRest
    · split at hFront
      · exact .inl (List.mem_of_mem_take hFront)
      · exact .inr hFront
    · exact (ih hRest).imp_left (List.mem_cons_of_mem first)

lemma length_utf8LossyFrom_le (skip : Nat) (bytes : List UInt8) :
  (utf8LossyFrom skip bytes).length ≤ 3 * (bytes.length - skip) := by
  fun_induction utf8LossyFrom skip bytes with
  | case1 => simp
  | case2 _ _ _ ih =>
    rw [List.length_cons, Nat.add_sub_add_right]
    exact ih
  | case3 first rest =>
    rw [List.length_append, List.length_cons]
    split
    · rw [List.length_take, List.length_cons]
      omega
    · have hThree : replacementBytes.length = 3 := rfl
      omega

lemma utf8Lossy_ne_nil (hSome : bytes ≠ []) : utf8Lossy bytes ≠ [] := by
  cases bytes with
  | nil => exact absurd rfl hSome
  | cons first rest =>
    have hPos := utf8Front_pos first rest
    rw [utf8Lossy, utf8LossyFrom]
    intro hNil
    rcases List.append_eq_nil_iff.mp hNil with ⟨hFront, -⟩
    split at hFront
    · rw [List.take_eq_nil_iff] at hFront
      rcases hFront with _ | hNil
      · omega
      · cases hNil
    · cases hFront

lemma utf8LossyFrom_eq_drop_iff (skip : Nat) (bytes : List UInt8) :
  utf8LossyFrom skip bytes = bytes.drop skip ↔ (utf8DecodeFrom skip bytes).isSome := by
  fun_induction utf8LossyFrom skip bytes with
  | case1 => simp [utf8DecodeFrom]
  | case2 _ _ _ ih => exact ih
  | case3 first rest front ih =>
    rw [utf8DecodeFrom]
    split
    next hWhole =>
      rw [Option.isSome_map, ← ih, drop_utf8Front, List.drop_zero]
      nth_rewrite 2 [← List.take_append_drop front.2 (first :: rest)]
      exact List.append_right_inj _
    next hPiece =>
      -- the replacement character is itself a whole one
      refine ⟨fun hSame => absurd ?_ hPiece, nofun⟩
      simp only [replacementBytes, List.cons_append, List.drop_zero, List.cons.injEq] at hSame
      rcases hSame with ⟨rfl, hRest⟩
      rw [show front = utf8Front 0xEF rest from rfl, ← hRest]
      exact utf8Front_replacement _

lemma utf8Lossy_eq_self_iff :
  utf8Lossy bytes = bytes ↔ (utf8Decode bytes).isSome :=
  utf8LossyFrom_eq_drop_iff 0 bytes

-- ASCII

def utf8Bytes (text : List Char) : List UInt8 := text.flatMap String.utf8EncodeChar

def IsAscii (text : List Char) : Prop := ∀ c ∈ text, c.toNat < 128

lemma utf8Bytes_append
  (text more : List Char) : utf8Bytes (text ++ more) = utf8Bytes text ++ utf8Bytes more := by
  simp [utf8Bytes]

variable {c : Char} {text : List Char} {first : UInt8}

lemma utf8EncodeChar_of_ascii (hAscii : c.toNat < 128) :
  String.utf8EncodeChar c = [UInt8.ofNat c.toNat] := by
  have hLe : c.val.toNat ≤ 0x7f := by
    have hVal : c.val.toNat = c.toNat := rfl
    omega
  unfold String.utf8EncodeChar
  exact if_pos hLe

lemma utf8Bytes_of_ascii
  (hAscii : IsAscii text) : utf8Bytes text = text.map fun c => UInt8.ofNat c.toNat := by
  induction text with
  | nil => rfl
  | cons c text ih =>
    rcases List.forall_mem_cons.mp hAscii with ⟨hChar, hText⟩
    have hRest := ih hText
    simp only [utf8Bytes, List.flatMap_cons] at hRest ⊢
    rw [utf8EncodeChar_of_ascii hChar, hRest]
    rfl

section

variable (hAscii : first < 0x80) (rest : List UInt8)

include hAscii

lemma utf8Front_of_ascii : utf8Front first rest = (true, 1) := by simp [utf8Front, hAscii]

lemma utf8Lossy_cons : utf8Lossy (first :: rest) = first :: utf8Lossy rest := by
  simp [utf8Lossy, utf8LossyFrom, utf8Front_of_ascii hAscii]

lemma utf8Decode_cons :
  utf8Decode (first :: rest) = (utf8Decode rest).map (Char.ofNat first.toNat :: ·) := by
  simp [utf8Decode, utf8DecodeFrom, utf8Front_of_ascii hAscii, utf8Char]

end

lemma ofNat_lt_of_ascii (hAscii : c.toNat < 128) : UInt8.ofNat c.toNat < 0x80 := by
  rw [UInt8.lt_iff_toNat_lt, UInt8.toNat_ofNat']
  have hMax : (0x80 : UInt8).toNat = 128 := rfl
  omega

/- A lossy decoder leaves ASCII at the front alone. -/
lemma utf8Lossy_utf8Bytes_append (hAscii : IsAscii text) (rest : List UInt8) :
  utf8Lossy (utf8Bytes text ++ rest) = utf8Bytes text ++ utf8Lossy rest := by
  rw [utf8Bytes_of_ascii hAscii]
  induction text with
  | nil => rfl
  | cons c text ih =>
    rcases List.forall_mem_cons.mp hAscii with ⟨hChar, hText⟩
    rw [List.map_cons, List.cons_append, List.cons_append,
      utf8Lossy_cons (ofNat_lt_of_ascii hChar), ih hText]

lemma utf8Decode_utf8Bytes (hAscii : IsAscii text) : utf8Decode (utf8Bytes text) = some text := by
  rw [utf8Bytes_of_ascii hAscii]
  induction text with
  | nil => rfl
  | cons c text ih =>
    rcases List.forall_mem_cons.mp hAscii with ⟨hChar, hText⟩
    have hBack : Char.ofNat (UInt8.ofNat c.toNat).toNat = c := by
      rw [UInt8.toNat_ofNat', Nat.mod_eq_of_lt (by omega)]
      exact Char.ofNat_toNat c
    rw [List.map_cons, utf8Decode_cons (ofNat_lt_of_ascii hChar), ih hText, Option.map_some, hBack]

lemma exists_of_mem_utf8Bytes
  (hAscii : IsAscii text) (hMem : byte ∈ utf8Bytes text) : ∃ c ∈ text, byte.toNat = c.toNat := by
  rw [utf8Bytes_of_ascii hAscii, List.mem_map] at hMem
  rcases hMem with ⟨c, hChar, rfl⟩
  have hLt := hAscii c hChar
  refine ⟨c, hChar, ?_⟩
  rw [UInt8.toNat_ofNat', Nat.mod_eq_of_lt (by omega)]

lemma length_utf8Bytes (hAscii : IsAscii text) : (utf8Bytes text).length = text.length := by
  rw [utf8Bytes_of_ascii hAscii, List.length_map]

-- Text That Is Cut

/- ASCII behind a piece of a character counts like the end. -/
lemma isContinuation_of_ascii {byte : UInt8} (hAscii : byte < 0x80) :
    isContinuation byte = false := by
  have hAll : ∀ n < 128, isContinuation (UInt8.ofNat n) = false := by decide +kernel
  have hByte := hAll byte.toNat hAscii
  rw [UInt8.ofNat_toNat] at hByte
  exact hByte

lemma utf8Front_append_ascii
    {byte : UInt8}
    (hAscii : byte < 0x80)
    (first : UInt8)
    (front rest : List UInt8) :
    utf8Front first (front ++ byte :: rest) = utf8Front first front := by
  have hMore := isContinuation_of_ascii hAscii
  have hZero : isContinuation 0 = false := by decide
  have hThree : ∀ b, b < 0x80 → secondOfThree first b = false := by
    intro b hLow
    unfold secondOfThree
    grind
  have hFour : ∀ b, b < 0x80 → secondOfFour first b = false := by
    intro b hLow
    unfold secondOfFour
    grind
  have hThreeByte := hThree byte hAscii
  have hFourByte := hFour byte hAscii
  have hThreeZero := hThree 0 (by decide)
  have hFourZero := hFour 0 (by decide)
  match front with
  | [] => simp [utf8Front, hMore, hZero, hThreeByte, hFourByte, hThreeZero, hFourZero]
  | [_] => simp [utf8Front, hMore, hZero]
  | [_, _] => simp [utf8Front, hMore, hZero]
  | _ :: _ :: _ :: _ => rfl

/- The bytes of a front are there. -/
lemma utf8Front_le (first : UInt8) (rest : List UInt8) :
    (utf8Front first rest).2 ≤ rest.length + 1 := by
  by_contra hLong
  have hHigh := @utf8Front_covers first rest rest.length (by omega)
  simp at hHigh

lemma utf8Lossy_eq (first : UInt8) (rest : List UInt8) :
    utf8Lossy (first :: rest) =
      (if (utf8Front first rest).1 then (first :: rest).take (utf8Front first rest).2
        else replacementBytes) ++ utf8Lossy (rest.drop ((utf8Front first rest).2 - 1)) := by
  rw [utf8Lossy, utf8LossyFrom, utf8LossyFrom_eq]

/- A lossy decoder reads what stands before an ASCII byte and what stands behind it apart. -/
lemma utf8Lossy_append_ascii
    {byte : UInt8}
    (hAscii : byte < 0x80)
    (front rest : List UInt8) :
    utf8Lossy (front ++ byte :: rest) = utf8Lossy front ++ byte :: utf8Lossy rest := by
  induction hLength : front.length using Nat.strongRecOn generalizing front with
  | ind n ih =>
    cases front with
    | nil => exact utf8Lossy_cons hAscii rest
    | cons first front =>
      have hLe := utf8Front_le first front
      have hPos := utf8Front_pos first front
      have hTail := ih (front.drop ((utf8Front first front).2 - 1)).length
        (by rw [List.length_drop, ← hLength, List.length_cons]; omega) _ rfl
      rw [List.cons_append, utf8Lossy_eq, utf8Front_append_ascii hAscii, utf8Lossy_eq first front,
        List.drop_append_of_le_length (by omega), hTail, ← List.cons_append,
        List.take_append_of_le_length (by simpa using hLe), List.append_assoc]

/- A whole character is read off its own bytes. -/
lemma utf8Front_congr
    {first : UInt8}
    {rest rest' : List UInt8}
    (hWhole : (utf8Front first rest).1 = true)
    (hSame : ∀ i, i + 1 < (utf8Front first rest).2 → rest'.getD i 0 = rest.getD i 0) :
    utf8Front first rest' = utf8Front first rest := by
  have hFirst := hSame 0
  have hSecond := hSame 1
  have hThird := hSame 2
  clear hSame
  unfold utf8Front at *
  generalize rest.getD 0 0 = a at *
  generalize rest.getD 1 0 = b at *
  generalize rest.getD 2 0 = c at *
  generalize rest'.getD 0 0 = a' at *
  generalize rest'.getD 1 0 = b' at *
  generalize rest'.getD 2 0 = c' at *
  grind

variable {front more : List UInt8}

lemma getD_append_of_lt {i : Nat} (hLt : i < front.length) :
    (front ++ more).getD i 0 = front.getD i 0 := by
  simp [List.getD_eq_getElem?_getD, List.getElem?_append_left hLt]

/- Decoding goes on behind a first character. -/
lemma isSome_utf8Decode_cons_iff {first : UInt8} {rest : List UInt8} :
    (utf8Decode (first :: rest)).isSome ↔
      (utf8Front first rest).1 = true ∧
      (utf8Decode (rest.drop ((utf8Front first rest).2 - 1))).isSome := by
  have hFrom : ∀ (skip : Nat) (bytes : List UInt8),
      utf8DecodeFrom skip bytes = utf8Decode (bytes.drop skip) := by
    intro skip
    induction skip with
    | zero => exact fun bytes => rfl
    | succ skip ih =>
      intro bytes
      cases bytes with
      | nil => rfl
      | cons _ bytes => exact ih bytes
  rw [utf8Decode, utf8DecodeFrom]
  cases hWhole : (utf8Front first rest).1 with
  | true => simp [hFrom]
  | false => simp

/- A character that is cut before its end is a piece as a whole. -/
lemma utf8Front_of_cut
    {first : UInt8}
    {rest : List UInt8}
    (hWhole : (utf8Front first (rest ++ more)).1 = true)
    (hCut : rest.length + 1 < (utf8Front first (rest ++ more)).2) :
    utf8Front first rest = (false, rest.length + 1) ∧
    rest.length ≤ 2 ∧ (rest.length = 2 → first ≠ 0xEF) := by
  have hZero : isContinuation 0 = false := by decide
  have hThree : secondOfThree first 0 = false := by
    unfold secondOfThree
    grind
  have hFour : secondOfFour first 0 = false := by
    unfold secondOfFour
    grind
  unfold utf8Front at *
  match rest with
  | [] =>
    simp only [List.nil_append, List.length_nil, List.getD_nil] at *
    grind
  | [a] =>
    simp only [List.cons_append, List.nil_append, List.length_cons, List.length_nil,
      List.getD_cons_zero, List.getD_cons_succ, List.getD_nil] at *
    grind
  | [a, b] =>
    simp only [List.cons_append, List.nil_append, List.length_cons, List.length_nil,
      List.getD_cons_zero, List.getD_cons_succ, List.getD_nil] at *
    grind
  | a :: b :: c :: rest =>
    simp only [List.length_cons] at hCut
    grind

/-
  Text that is cut: a front of a text is text itself, or text and one to three bytes of a
  character, for which a lossy decoder puts the replacement character.
-/
lemma utf8Lossy_of_cut
    (hText : (utf8Decode (front ++ more)).isSome) :
    (utf8Decode front).isSome ∧ (utf8Decode more).isSome ∨
    ∃ whole piece,
      front = whole ++ piece ∧ utf8Lossy front = whole ++ replacementBytes ∧
      piece ≠ [] ∧ piece.length ≤ 3 ∧ (piece.length = 3 → piece.head? ≠ some 0xEF) := by
  induction hLength : front.length using Nat.strongRecOn generalizing front with
  | ind n ih =>
    cases front with
    | nil => exact .inl ⟨rfl, hText⟩
    | cons first rest =>
      rw [List.cons_append, isSome_utf8Decode_cons_iff] at hText
      rcases hText with ⟨hWhole, hTail⟩
      by_cases hIn : (utf8Front first (rest ++ more)).2 ≤ rest.length + 1
      · -- the first character is in the front
        have hFront : utf8Front first rest = utf8Front first (rest ++ more) :=
          utf8Front_congr hWhole fun i hLt => (getD_append_of_lt (by omega)).symm
        rw [← hFront] at hWhole hTail hIn
        have hPos := utf8Front_pos first rest
        rw [List.drop_append_of_le_length (by omega)] at hTail
        rcases ih (rest.drop ((utf8Front first rest).2 - 1)).length
          (by rw [List.length_drop, ← hLength, List.length_cons]; omega) hTail rfl with
          ⟨hDecode, hMore⟩ | ⟨whole, piece, hSplit, hLossy, hPiece⟩
        · exact .inl ⟨isSome_utf8Decode_cons_iff.mpr ⟨hWhole, hDecode⟩, hMore⟩
        · refine .inr ⟨(first :: rest).take (utf8Front first rest).2 ++ whole, piece, ?_, ?_, hPiece⟩
          · rw [List.append_assoc, ← hSplit, drop_utf8Front, List.take_append_drop]
          · rw [utf8Lossy_eq, if_pos hWhole, hLossy, List.append_assoc]
      · -- it is cut
        rcases utf8Front_of_cut hWhole (Nat.not_le.mp hIn) with ⟨hFront, hShort, hFirst⟩
        refine .inr ⟨[], first :: rest, rfl, ?_, List.cons_ne_nil _ _, ?_, ?_⟩
        · rw [utf8Lossy_eq, hFront]
          simp [utf8Lossy, utf8LossyFrom]
        · exact Nat.succ_le_succ hShort
        · intro hThree
          simpa using hFirst (by simpa using hThree)
