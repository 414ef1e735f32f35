import Kourosh.Routing.Sniff

/-
  Responses of the control API.

  The chunks are cut out of a text that is decoded already, at offsets the peer names: a size that
  is too large, or that ends inside a character, stops the program.

  Main declarations
    * `parseResponse` : the status and the body, or a panic
    * `Follows` : the places the named sizes lead to
    * `SizesFit` : no named size leads out of range or into a character
    * `ChunkedResponse` : a response as a peer cuts its body into chunks

  Correctness is proven by:
    * `chunks_are_read_iff`
-/

-- The Parser

namespace Kourosh.Api

open List Text Routing

def crlf : Bytes := [13, 10]

def cutAt (mark : Bytes) : Bytes → Option (Bytes × Bytes)
| [] => none
| byte :: rest =>
  if mark <+: byte :: rest then some ([], (byte :: rest).drop mark.length)
  else (cutAt mark rest).map fun found => (byte :: found.1, found.2)

lemma eq_of_cutAt {mark text front rest : Bytes} (hCut : cutAt mark text = some (front, rest)) :
  text = front ++ (mark ++ rest) := by
  induction text generalizing front with
  | nil => cases hCut
  | cons byte text ih =>
    rw [cutAt] at hCut
    split at hCut
    next hMark =>
      cases hCut
      exact (prefix_iff_eq_append.mp hMark).symm
    next =>
      rcases Option.map_eq_some_iff.mp hCut with ⟨found, hFound, hEq⟩
      cases hEq
      rw [ih hFound]
      rfl

lemma length_of_cutAt {text front rest : Bytes} (hCut : cutAt crlf text = some (front, rest)) :
  text.length = front.length + 2 + rest.length := by
  rw [eq_of_cutAt hCut]
  simp only [length_append, crlf, length_cons, length_nil]
  omega

def splits (body : Bytes) : Bool := body.head?.any isContinuation

def hexValue (c : Char) : Option Nat :=
  if c.isDigit then some (c.toNat - 48)
  else if 97 ≤ c.toNat ∧ c.toNat ≤ 102 then some (c.toNat - 87)
  else if 65 ≤ c.toNat ∧ c.toNat ≤ 70 then some (c.toNat - 55)
  else none

variable (t : Usize) (lower : List Char → List Char)

/- `usize::from_str_radix` in base sixteen. -/
def fromStrRadix (text : List Char) : Option Nat :=
  let digits := (stripFront "+" text).getD text
  if digits.isEmpty then none
  else digits.foldlM (fun value c => (hexValue c).bind fun digit =>
    if value * 16 + digit < 2 ^ t.bits then some (value * 16 + digit) else none) 0

def chars (bytes : Bytes) : List Char := (utf8Decode bytes).getD []

def chunkSize (line : Bytes) : Option Nat := fromStrRadix t (trim (chars (line.takeWhile (· ≠ 59))))

/- `body` is the text from `cursor` on. -/
def dechunk (cursor : Nat) (body : Bytes) : Option Bytes :=
  if body = [] then some []
  else if splits body then none
  else
    match _hCut : cutAt crlf body with
    | none => some []
    | some (line, rest) =>
      match chunkSize t line with
      | none => some []
      | some size =>
        if size = 0 then some []
        else if 2 ^ t.bits ≤ cursor + line.length + 2 + size then none
        else if rest.length < size then some []
        else if splits (rest.drop size) then none
        else (dechunk (cursor + line.length + 2 + size + 2) (rest.drop (size + 2))).map
          (rest.take size ++ ·)
termination_by body.length
decreasing_by
  have hLength := length_of_cutAt _hCut
  rw [length_drop]
  omega

def statusOf (head : Bytes) : Option UInt16 :=
  (splitWhitespace (chars ((splitCrlf head).headD [])))[1]?.bind parseU16

def isChunked (head : Bytes) : Bool :=
  (splitCrlf head).tail.any fun line => decide ("transfer-encoding:".toList <+: lower (chars line)) &&
    decide ("chunked".toList <:+: lower (chars line))

/- The text of an error is that of `AetherError::Api`. -/
def parseResponse (raw : Bytes) : Option (Except String (UInt16 × Bytes)) :=
  match cutAt (crlf ++ crlf) (utf8Lossy raw) with
  | none => some (.error "truncated response head")
  | some (head, body) =>
    match statusOf head with
    | none => some (.error ("bad status line: " ++ String.ofList (chars ((splitCrlf head).headD []))))
    | some status =>
      if isChunked lower head then (dechunk t 0 body).map fun body => .ok (status, body)
      else some (.ok (status, body))

-- Sizes That Fit

/-
  The places the size lines lead to: behind a line that names a size other than zero come that many
  bytes and two more.
-/
inductive Follows (t : Usize) : Nat → Bytes → Nat → Bytes → Prop
| start (cursor : Nat) (text : Bytes) : Follows t cursor text cursor text
| chunk (hCut : cutAt crlf text = some (line, rest)) (hSize : chunkSize t line = some size)
  (hSome : size ≠ 0) (hIn : size ≤ rest.length)
  (hRest : Follows t (cursor + line.length + 2 + size + 2) (rest.drop (size + 2)) offset body) :
  Follows t cursor text offset body

/-
  Every place reached is at a character, and a size named there fits into `usize` with its offset
  and does not end inside a character.
-/
def SizesFit (t : Usize) (cursor : Nat) (text : Bytes) : Prop :=
  ∀ offset body, Follows t cursor text offset body →
    splits body = false ∧
    ∀ line rest size,
      cutAt crlf body = some (line, rest) → chunkSize t line = some size → size ≠ 0 →
      offset + line.length + 2 + size < 2 ^ t.bits ∧
      (size ≤ rest.length → splits (rest.drop size) = false)

variable {t lower} {body rest : Bytes} {byte : UInt8} {cursor size : Nat}

/- The sizes fit if the first one does and those behind it do. -/
lemma sizesFit_iff :
    SizesFit t cursor body ↔
      splits body = false ∧
      ∀ line rest size,
        cutAt crlf body = some (line, rest) → chunkSize t line = some size → size ≠ 0 →
        cursor + line.length + 2 + size < 2 ^ t.bits ∧
        (size ≤ rest.length →
          splits (rest.drop size) = false ∧
          SizesFit t (cursor + line.length + 2 + size + 2) (rest.drop (size + 2))) := by
  constructor
  · intro hFit
    rcases hFit cursor body (.start cursor body) with ⟨hStart, hFirst⟩
    refine ⟨hStart, fun line rest size hCut hSize hSome => ?_⟩
    rcases hFirst line rest size hCut hSize hSome with ⟨hRange, hEnd⟩
    refine ⟨hRange, fun hIn => ⟨hEnd hIn, fun offset later hLater => ?_⟩⟩
    exact hFit offset later (.chunk hCut hSize hSome hIn hLater)
  · rintro ⟨hStart, hFirst⟩ offset later hLater
    cases hLater with
    | start =>
      refine ⟨hStart, fun line rest size hCut hSize hSome => ?_⟩
      rcases hFirst line rest size hCut hSize hSome with ⟨hRange, hRest⟩
      exact ⟨hRange, fun hIn => (hRest hIn).1⟩
    | chunk hCut hSize hSome hIn hRest =>
      exact ((hFirst _ _ _ hCut hSize hSome).2 hIn).2 offset later hRest

lemma dechunk_ne_none_iff (t : Usize) (cursor : Nat) (body : Bytes) :
    dechunk t cursor body ≠ none ↔ SizesFit t cursor body := by
  fun_induction dechunk t cursor body with
  | case1 =>
    rw [sizesFit_iff]
    simp [splits, cutAt]
  | case2 _ _ _ hSplits =>
    rw [sizesFit_iff]
    simp [hSplits]
  | case3 _ _ _ hSplits hCut =>
    rw [sizesFit_iff]
    simp [hSplits, hCut]
  | case4 _ _ _ hSplits _ _ hCut hSize =>
    rw [sizesFit_iff]
    refine iff_of_true nofun ⟨by simpa using hSplits, fun line rest size hCut' hSize' _ => ?_⟩
    cases hCut.symm.trans hCut'
    cases hSize.symm.trans hSize'
  | case5 _ _ _ hSplits _ _ hCut hSize =>
    rw [sizesFit_iff]
    refine iff_of_true nofun ⟨by simpa using hSplits, fun line rest size hCut' hSize' hSome => ?_⟩
    cases hCut.symm.trans hCut'
    cases hSize.symm.trans hSize'
    exact absurd rfl hSome
  | case6 _ _ _ hSplits _ _ hCut _ hSize hSome hOver =>
    rw [sizesFit_iff]
    simp only [ne_eq, not_true_eq_false, false_iff]
    intro hFit
    have hRange := (hFit.2 _ _ _ hCut hSize hSome).1
    omega
  | case7 _ _ _ hSplits _ _ hCut _ hSize hSome hRange hShort =>
    rw [sizesFit_iff]
    refine iff_of_true nofun ⟨by simpa using hSplits, fun line rest size hCut' hSize' _ => ?_⟩
    cases hCut.symm.trans hCut'
    cases hSize.symm.trans hSize'
    exact ⟨by omega, fun hIn => by omega⟩
  | case8 _ _ _ hSplits _ _ hCut _ hSize hSome hRange hLong hEnd =>
    rw [sizesFit_iff]
    simp only [ne_eq, not_true_eq_false, false_iff]
    intro hFit
    have hWhole := ((hFit.2 _ _ _ hCut hSize hSome).2 (by omega)).1
    rw [hEnd] at hWhole
    cases hWhole
  | case9 _ _ _ hSplits _ _ hCut _ hSize hSome hRange hLong hEnd ih =>
    rw [ne_eq, Option.map_eq_none_iff, ← ne_eq, ih]
    constructor
    · intro hRest
      refine sizesFit_iff.mpr ⟨by simpa using hSplits, fun line rest size hCut' hSize' _ => ?_⟩
      cases hCut.symm.trans hCut'
      cases hSize.symm.trans hSize'
      exact ⟨by omega, fun _ => ⟨by simpa using hEnd, hRest⟩⟩
    · intro hFit
      exact (((sizesFit_iff.mp hFit).2 _ _ _ hCut hSize hSome).2 (by omega)).2

-- Chunks

structure Chunk where
  digits : List Char
  (ext data : Bytes)

def Chunk.sizeLine (c : Chunk) : Bytes := utf8Bytes c.digits ++ c.ext

def Chunk.encode (c : Chunk) : Bytes := c.sizeLine ++ (crlf ++ (c.data ++ crlf))

/- The chunk as it stands in the decoded text. -/
def Chunk.decoded (c : Chunk) : Chunk := ⟨c.digits, utf8Lossy c.ext, utf8Lossy c.data⟩

/- The size line names a size in hexadecimal digits, with or without an extension. -/
structure Chunk.Names (t : Usize) (c : Chunk) (size : Nat) : Prop where
  nonempty : c.digits ≠ []
  hex : ∀ d ∈ c.digits, (hexValue d).isSome = true
  value : fromStrRadix t c.digits = some size
  ext : c.ext = [] ∨ c.ext.head? = some 59
  ends : 13 ∉ c.ext

lemma range_of_hexValue {d : Char} (hHex : (hexValue d).isSome) :
    48 ≤ d.toNat ∧ d.toNat ≤ 102 ∧ d.toNat ≠ 59 := by
  by_cases hDigit : d.isDigit
  · have hRange := toNat_of_isDigit hDigit
    omega
  · by_contra hOther
    rw [hexValue, if_neg hDigit, if_neg (by omega), if_neg (by omega)] at hHex
    cases hHex

lemma splits_cons (hAscii : byte < 0x80) (rest : Bytes) : splits (byte :: rest) = false :=
  isContinuation_of_ascii hAscii

namespace Chunk.Names

variable {c : Chunk} (hNames : c.Names t size)
include hNames

lemma isAscii : IsAscii c.digits := by
  intro d hMem
  have hRange := range_of_hexValue (hNames.hex d hMem)
  omega

lemma ne_of_mem (hMem : byte ∈ utf8Bytes c.digits) : byte ≠ 13 ∧ byte ≠ 59 := by
  rcases exists_of_mem_utf8Bytes hNames.isAscii hMem with ⟨d, hDigit, hSame⟩
  have hRange := range_of_hexValue (hNames.hex d hDigit)
  constructor
  all_goals
    rintro rfl
    simp only [UInt8.reduceToNat] at hSame
    omega

lemma chunkSize_sizeLine : chunkSize t c.sizeLine = some size := by
  have hVisible : ∀ d ∈ c.digits, isVisible d := by
    intro d hMem
    have hRange := range_of_hexValue (hNames.hex d hMem)
    simp only [isVisible, Bool.and_eq_true, decide_eq_true_eq]
    omega
  have hExt : c.ext.takeWhile (· ≠ 59) = [] := by
    rcases hNames.ext with hNil | hHead
    · rw [hNil, takeWhile_nil]
    · cases hEq : c.ext with
      | nil => rfl
      | cons byte ext =>
        rw [hEq] at hHead
        cases hHead
        rfl
  rw [chunkSize, Chunk.sizeLine, takeWhile_append_of_pos fun byte hMem => by
    simp [(hNames.ne_of_mem hMem).2], hExt, append_nil, chars,
    utf8Decode_utf8Bytes hNames.isAscii, Option.getD_some, trim_of_isVisible hVisible, hNames.value]

lemma cutAt_encode (more : Bytes) :
    cutAt crlf (c.encode ++ more) = some (c.sizeLine, c.data ++ (crlf ++ more)) := by
  have hLine : 13 ∉ c.sizeLine := by
    rw [Chunk.sizeLine, mem_append, not_or]
    exact ⟨fun hMem => (hNames.ne_of_mem hMem).1 rfl, hNames.ends⟩
  rw [encode, append_assoc, append_assoc, append_assoc]
  generalize c.sizeLine = line at hLine
  induction line with
  | nil => simp [cutAt, crlf]
  | cons byte line ih =>
    rw [mem_cons, not_or] at hLine
    rw [cons_append, cutAt, if_neg (by simp [crlf, hLine.1]), ih hLine.2]
    rfl

lemma splits_encode (more : Bytes) : splits (c.encode ++ more) = false := by
  have hAscii := hNames.isAscii
  rw [encode, Chunk.sizeLine, utf8Bytes_of_ascii hAscii]
  cases hDigits : c.digits with
  | nil => exact absurd hDigits hNames.nonempty
  | cons d =>
    rw [hDigits] at hAscii
    exact splits_cons (ofNat_lt_of_ascii (hAscii d mem_cons_self)) _

/- The size line is the same in the decoded text. -/
lemma names_decoded : c.decoded.Names t size where
  nonempty := hNames.nonempty
  hex := hNames.hex
  value := hNames.value
  ext := by
    rcases hNames.ext with hNil | hHead
    · exact .inl (by rw [Chunk.decoded, hNil]; rfl)
    · cases hExt : c.ext with
      | nil => exact .inl (by rw [Chunk.decoded, hExt]; rfl)
      | cons byte ext =>
        rw [hExt] at hHead
        cases hHead
        exact .inr (by rw [Chunk.decoded, hExt, utf8Lossy_cons (by decide)]; rfl)
  ends := by
    intro hMem
    rcases mem_utf8LossyFrom hMem with hExt | hOther
    · exact hNames.ends hExt
    · exact absurd hOther (by decide)

/- One chunk: the text behind its line is cut at the named size. -/
lemma dechunk_encode (hFits : cursor + c.sizeLine.length + 2 + size < 2 ^ t.bits)
    (hIn : size ≤ (c.data ++ (crlf ++ rest)).length) :
    dechunk t cursor (c.encode ++ rest) =
      if size = 0 then some []
      else if splits ((c.data ++ (crlf ++ rest)).drop size) then none
      else (dechunk t (cursor + c.sizeLine.length + 2 + size + 2)
        ((c.data ++ (crlf ++ rest)).drop (size + 2))).map
          ((c.data ++ (crlf ++ rest)).take size ++ ·) := by
  have hSome : c.encode ++ rest ≠ [] := by simp [encode, crlf]
  rw [dechunk, if_neg hSome, if_neg (by simp [hNames.splits_encode])]
  split
  next hCut =>
    rw [hNames.cutAt_encode] at hCut
    cases hCut
  next hCut =>
    rw [hNames.cutAt_encode] at hCut
    cases hCut
    simp only [hNames.chunkSize_sizeLine]
    rw [if_neg (Nat.not_le.mpr hFits), if_neg (Nat.not_lt.mpr hIn)]

/- A lossy decoder reads a chunk part by part: the line breaks keep the parts apart. -/
lemma utf8Lossy_encode (more : Bytes) :
    utf8Lossy (c.encode ++ more) = c.decoded.encode ++ utf8Lossy more := by
  have hBytes : c.encode ++ more =
      utf8Bytes c.digits ++ (c.ext ++ 13 :: 10 :: (c.data ++ 13 :: 10 :: more)) := by
    simp [encode, Chunk.sizeLine, crlf]
  rw [hBytes, utf8Lossy_utf8Bytes_append hNames.isAscii, utf8Lossy_append_ascii (by decide),
    utf8Lossy_cons (by decide), utf8Lossy_append_ascii (by decide), utf8Lossy_cons (by decide)]
  simp [encode, Chunk.sizeLine, Chunk.decoded, crlf]

end Chunk.Names

/- The chunks of a body, each with its own length, and the empty chunk at the end. -/
structure Chunked (t : Usize) (chunks : List Chunk) (last : Chunk) : Prop where
  sized : ∀ c ∈ chunks, c.Names t c.data.length ∧ c.data ≠ []
  last_sized : last.Names t 0
  last_empty : last.data = []

def encodeAll (chunks : List Chunk) (last : Chunk) : Bytes :=
  chunks.flatMap Chunk.encode ++ last.encode

lemma Chunked.tail {c last : Chunk} {chunks : List Chunk} (hChunked : Chunked t (c :: chunks) last) :
    Chunked t chunks last :=
  ⟨fun d hMem => hChunked.sized d (mem_cons_of_mem c hMem), hChunked.last_sized,
    hChunked.last_empty⟩

lemma utf8Lossy_encodeAll {chunks : List Chunk} {last : Chunk} (hChunked : Chunked t chunks last) :
    utf8Lossy (encodeAll chunks last) = encodeAll (chunks.map Chunk.decoded) last.decoded := by
  induction chunks with
  | nil =>
    have hLast := hChunked.last_sized.utf8Lossy_encode []
    rw [append_nil, show utf8Lossy [] = [] from rfl, append_nil] at hLast
    exact hLast
  | cons c chunks ih =>
    have hRest := ih hChunked.tail
    unfold encodeAll at hRest ⊢
    rw [flatMap_cons, append_assoc, (hChunked.sized c mem_cons_self).1.utf8Lossy_encode, hRest,
      map_cons, flatMap_cons, append_assoc]

/- A chunk that is text is read, and the text behind it is dechunked. -/
lemma dechunk_decoded_of_text
    {c : Chunk}
    (hNames : c.Names t c.data.length)
    (hSome : c.data ≠ [])
    (hText : (utf8Decode c.data).isSome)
    (hFits : cursor + (c.decoded.encode ++ rest).length < 2 ^ t.bits) :
    dechunk t cursor (c.decoded.encode ++ rest) =
      (dechunk t (cursor + c.decoded.encode.length) rest).map (c.data ++ ·) := by
  have hData : c.decoded.data = c.data := utf8Lossy_eq_self_iff.mpr hText
  have hLength : c.decoded.encode.length = c.decoded.sizeLine.length + 2 + c.data.length + 2 := by
    simp only [Chunk.encode, hData, length_append, crlf, length_cons, length_nil]
    omega
  have hCursor : cursor + c.decoded.sizeLine.length + 2 + c.data.length + 2 =
      cursor + c.decoded.encode.length := by omega
  have hEnd : splits (crlf ++ rest) = false := splits_cons (by decide) _
  rw [length_append] at hFits
  rw [hNames.names_decoded.dechunk_encode (by omega) (by simp [hData]), hData, drop_left, take_left,
    ← drop_drop, drop_left, hEnd, hCursor, if_neg (by simpa using hSome)]
  rfl

/- A chunk that ends inside a character is not read: its replacement is cut or taken for it. -/
lemma dechunk_decoded_of_piece
    {c : Chunk}
    {whole piece : Bytes}
    (hNames : c.Names t c.data.length)
    (hData : c.data = whole ++ piece)
    (hLossy : utf8Lossy c.data = whole ++ replacementBytes)
    (hSome : piece ≠ [])
    (hShort : piece.length ≤ 3)
    (hHead : piece.length = 3 → piece.head? ≠ some 0xEF)
    (hFits : cursor + (c.decoded.encode ++ rest).length < 2 ^ t.bits)
    (more : Bytes) :
    dechunk t cursor (c.decoded.encode ++ rest) ≠ some (c.data ++ more) := by
  have hDecoded : c.decoded.data = whole ++ replacementBytes := hLossy
  have hSize : c.data.length = whole.length + piece.length := by rw [hData, length_append]
  have hPos := length_pos_iff.mpr hSome
  have hThree : replacementBytes.length = 3 := rfl
  have hLength : c.decoded.encode.length = c.decoded.sizeLine.length + 2 + whole.length + 5 := by
    simp only [Chunk.encode, hDecoded, length_append, crlf, length_cons, length_nil, hThree]
    omega
  rw [length_append] at hFits
  rw [hNames.names_decoded.dechunk_encode (by omega)
    (by simp only [hDecoded, length_append]; omega), if_neg (by omega), hDecoded, hSize,
    append_assoc, drop_length_add_append, take_length_add_append]
  rcases piece with _ | ⟨a, _ | ⟨b, _ | ⟨d, _ | ⟨e, piece⟩⟩⟩⟩
  · exact absurd rfl hSome
  iterate 2
    · rw [if_pos (by simp [replacementBytes, splits]; decide)]
      simp
  · rw [if_neg (by simp [replacementBytes, crlf, splits]; decide)]
    intro hSame
    rcases Option.map_eq_some_iff.mp hSame with ⟨later, -, hBody⟩
    rw [hData, append_assoc, append_assoc] at hBody
    have hPiece := (List.cons.inj (append_cancel_left hBody)).1
    exact hHead rfl (congrArg some hPiece.symm)
  · simp only [length_cons] at hShort
    omega

lemma dechunk_decoded_iff
    {chunks : List Chunk}
    {last : Chunk}
    (hChunked : Chunked t chunks last)
    (hText : (utf8Decode (chunks.flatMap Chunk.data)).isSome)
    (hFits : cursor + (encodeAll (chunks.map Chunk.decoded) last.decoded).length < 2 ^ t.bits) :
    dechunk t cursor (encodeAll (chunks.map Chunk.decoded) last.decoded) =
      some (chunks.flatMap Chunk.data) ↔
    ∀ c ∈ chunks, (utf8Decode c.data).isSome := by
  unfold encodeAll at hFits ⊢
  induction chunks generalizing cursor with
  | nil =>
    simp only [map_nil, flatMap_nil, nil_append] at hFits ⊢
    have hRange : cursor + last.decoded.sizeLine.length + 2 + 0 < 2 ^ t.bits := by
      simp only [Chunk.encode, length_append, crlf, length_cons, length_nil] at hFits
      omega
    have hDone := @Chunk.Names.dechunk_encode t [] cursor 0 last.decoded
      hChunked.last_sized.names_decoded hRange (Nat.zero_le _)
    rw [append_nil, if_pos rfl] at hDone
    exact iff_of_true hDone nofun
  | cons c chunks ih =>
    rcases hChunked.sized c mem_cons_self with ⟨hNames, hSome⟩
    rw [flatMap_cons] at hText
    rw [map_cons, flatMap_cons, append_assoc] at hFits
    rw [map_cons, flatMap_cons, append_assoc, flatMap_cons, forall_mem_cons]
    rcases utf8Lossy_of_cut hText with ⟨hFirst, hRest⟩ |
      ⟨whole, piece, hData, hLossy, hPiece, hShort, hHead⟩
    · have hLater := @ih (cursor + c.decoded.encode.length) hChunked.tail hRest
        (by rw [length_append] at hFits; omega)
      rw [dechunk_decoded_of_text hNames hSome hFirst hFits, ← hLater]
      simp [hFirst]
    · refine iff_of_false (dechunk_decoded_of_piece hNames
        hData hLossy hPiece hShort hHead hFits _) fun hAll => ?_
      -- the decoder would have left the chunk alone
      have hSame := hLossy.symm.trans (utf8Lossy_eq_self_iff.mpr hAll.1)
      rw [hData] at hSame
      have hEq := append_cancel_left hSame
      exact hHead (by rw [← hEq]; rfl) (by rw [← hEq]; rfl)

-- Responses

/- A response with a chunked body, which is text, cut anywhere. -/
structure ChunkedResponse (t : Usize) (lower : List Char → List Char) where
  head : Bytes
  status : UInt16
  chunks : List Chunk
  last : Chunk
  head_ends : cutAt (crlf ++ crlf) (utf8Lossy head ++ (crlf ++ crlf)) = some (utf8Lossy head, [])
  has_status : statusOf (utf8Lossy head) = some status
  is_chunked : isChunked lower (utf8Lossy head) = true
  chunked : Chunked t chunks last
  is_text : (utf8Decode (chunks.flatMap Chunk.data)).isSome = true

namespace ChunkedResponse

def raw (r : ChunkedResponse t lower) : Bytes :=
  r.head ++ (crlf ++ crlf ++ encodeAll r.chunks r.last)

def content (r : ChunkedResponse t lower) : Bytes := r.chunks.flatMap Chunk.data

end ChunkedResponse

/- A mark that is found at the end is found there whatever follows. -/
lemma cutAt_append
    {mark front : Bytes}
    (hMark : mark ≠ [])
    (hEnds : cutAt mark (front ++ mark) = some (front, []))
    (rest : Bytes) :
    cutAt mark (front ++ (mark ++ rest)) = some (front, rest) := by
  induction front with
  | nil =>
    cases mark with
    | nil => exact absurd rfl hMark
    | cons byte mark =>
      rw [nil_append, cons_append, cutAt, if_pos ⟨rest, rfl⟩]
      simp
  | cons byte front ih =>
    rw [cons_append, cutAt] at hEnds
    split at hEnds
    next => cases hEnds
    next hNot =>
      rcases Option.map_eq_some_iff.mp hEnds with ⟨⟨found, behind⟩, hFound, hEq⟩
      cases hEq
      rw [cons_append, cutAt, if_neg, ih hFound]
      · rfl
      · intro hFront
        apply hNot
        refine prefix_of_prefix_length_le hFront ⟨rest, by simp⟩ ?_
        simp only [length_cons, length_append]
        omega

/-
  A response is read without a panic exactly if it is not chunked or the sizes named in its decoded
  text fit. The status and the body of a chunked response, with any head, sizes and extensions, are
  returned exactly if each of its chunks is text by itself.
-/
theorem chunks_are_read_iff
    (t : Usize)
    (lower : List Char → List Char) :
    (∀ raw,
      parseResponse t lower raw ≠ none ↔
        ∀ head body,
          cutAt (crlf ++ crlf) (utf8Lossy raw) = some (head, body) →
          statusOf head ≠ none → isChunked lower head = true → SizesFit t 0 body) ∧
    ∀ r : ChunkedResponse t lower,
      (utf8Lossy r.raw).length < 2 ^ t.bits →
      (parseResponse t lower r.raw = some (.ok (r.status, r.content)) ↔
        ∀ c ∈ r.chunks, (utf8Decode c.data).isSome = true) := by
  refine ⟨fun raw => ?_, fun r hFits => ?_⟩
  · rw [parseResponse]
    cases hCut : cutAt (crlf ++ crlf) (utf8Lossy raw) with
    | none => simp
    | some found =>
      rcases found with ⟨head, body⟩
      cases hStatus : statusOf head with
      | none => simp [hStatus]
      | some status =>
        cases hChunked : isChunked lower head with
        | false => simp [hStatus, hChunked]
        | true => simp [hStatus, hChunked, ← dechunk_ne_none_iff]
  · have hText : utf8Lossy r.raw = utf8Lossy r.head ++
        (crlf ++ crlf ++ encodeAll (r.chunks.map Chunk.decoded) r.last.decoded) := by
      have hBytes : r.raw = r.head ++ 13 :: 10 :: 13 :: 10 :: encodeAll r.chunks r.last := rfl
      rw [hBytes, utf8Lossy_append_ascii (by decide), utf8Lossy_cons (by decide),
        utf8Lossy_cons (by decide), utf8Lossy_cons (by decide), utf8Lossy_encodeAll r.chunked]
      rfl
    have hCut := cutAt_append (by decide) r.head_ends
      (encodeAll (r.chunks.map Chunk.decoded) r.last.decoded)
    rw [← hText] at hCut
    rw [hText, length_append, length_append] at hFits
    rw [← @dechunk_decoded_iff t 0 r.chunks r.last r.chunked r.is_text (by omega), parseResponse,
      hCut]
    simp [r.has_status, r.is_chunked, ChunkedResponse.content]

def sampleHead : Bytes := ascii "HTTP/1.1 200 OK\r\nTransfer-Encoding: chunked"

lemma sampleHead_reads : statusOf sampleHead = some 200 ∧
  isChunked (map Char.toLower) sampleHead := by decide +kernel

/- The text `hié` in two chunks, the first with an extension. -/
def twoChunks : ChunkedResponse .w32 (map Char.toLower) where
  head := sampleHead
  status := 200
  chunks := [⟨['2'], ascii ";x", ascii "hi"⟩, ⟨['0', '2'], [], [0xC3, 0xA9]⟩]
  last := ⟨['0'], [], []⟩
  head_ends := by decide +kernel
  has_status := by decide +kernel
  is_chunked := by decide +kernel
  chunked :=
    { sized := by
        refine forall_mem_cons.mpr ⟨⟨⟨by decide, all_eq_true.mp (by decide), by decide +kernel,
          .inr rfl, by decide +kernel⟩, by decide⟩, forall_mem_singleton.mpr ⟨⟨by decide,
          all_eq_true.mp (by decide), by decide +kernel, .inl rfl, by decide⟩, by decide⟩⟩
      last_sized :=
        ⟨by decide, all_eq_true.mp (by decide), by decide +kernel, .inl rfl, by decide⟩
      last_empty := rfl }
  is_text := by decide +kernel

theorem two_chunks_are_read :
    parseResponse .w32 (map Char.toLower) twoChunks.raw =
      some (.ok (200, ascii "hi" ++ [0xC3, 0xA9])) :=
  ((chunks_are_read_iff .w32 (map Char.toLower)).2 twoChunks (by decide +kernel)).mpr
    (by decide +kernel)

theorem size_overflows :
    parseResponse .w64 (map Char.toLower) (sampleHead ++
      ascii "\r\n\r\nffffffffffffffff\r\n") = none := by
  have hCut : cutAt (crlf ++ crlf) (utf8Lossy (sampleHead ++
      ascii "\r\n\r\nffffffffffffffff\r\n")) =
    some (sampleHead, ascii "ffffffffffffffff\r\n") := by decide +kernel
  have hOver : dechunk .w64 0 (ascii "ffffffffffffffff\r\n") = none := by
    rw [dechunk]
    decide +kernel
  rw [parseResponse, hCut]
  simp only [sampleHead_reads.1, sampleHead_reads.2, if_true, hOver]
  rfl

end Kourosh.Api
