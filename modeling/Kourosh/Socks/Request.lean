import Kourosh.Socks.Http

/-
  HTTP/1.1 requests in absolute form, and what the proxy reads in them.

  A request names its destination in its own request line.
-/

-- Requests

namespace Kourosh.Socks

open Routing Text
open List

/- A request in absolute form with its headers and its body. -/
structure Request where
  method : List Char
  scheme : List Char
  bracketed : Bool
  host : List Char
  port : Option (List Char)
  path : List Char
  query : List Char
  headers : List Bytes
  body : Bytes
  method_ne : method ≠ []
  host_ne : host ≠ []
  visible : ∀ c ∈ method ++ scheme ++ host ++ path ++ query, Text.isVisible c = true
  scheme_plain : ':' ∉ scheme
  host_plain : ∀ c ∈ host, c ∉ "/?#[]@".toList
  host_colon : bracketed = false → ':' ∉ host
  digits : ∀ text ∈ port, ∀ c ∈ text, c.isDigit = true
  path_front : path = [] ∨ path.head? = some '/'
  query_front : query = [] ∨ query.head? = some '?'
  lines : ∀ line ∈ headers, line ≠ [] ∧ 13 ∉ line ∧ 10 ∉ line

namespace Request

def version : List Char := "HTTP/1.1".toList

variable (r : Request)

def portText : List Char := r.port.elim [] (':' :: ·)

def authority : List Char :=
  if r.bracketed then '[' :: (r.host ++ ']' :: r.portText)
  else r.host ++ r.portText

def uri : List Char := r.authority ++ (r.path ++ r.query)

def target : List Char := r.scheme ++ ':' :: '/' :: '/' :: r.uri

def line : List Char := r.method ++ ' ' :: (r.target ++ ' ' :: version)

def head : Bytes := encodeLines (utf8Bytes r.line :: r.headers) ++ crlf

def wire : Bytes := r.head ++ r.body

def defaultPort : Nat := if sameIgnoringCase r.scheme "https".toList then 443 else 80

def portNumber : Nat :=
  match r.port with
  | none => r.defaultPort
  | some [] => r.defaultPort
  | some digits => Text.decimal digits

def originTarget : List Char :=
  (if r.path.isEmpty then "/".toList else r.path) ++ r.query

def originLine : List Char := r.method ++ ' ' ::
  (r.originTarget ++ ' ' :: (version ++ "\r\n".toList))

-- Characters

lemma visible_version : ∀ c ∈ version, isVisible c := all_eq_true.mp (by decide)

lemma visible_root : ∀ c ∈ "/".toList, isVisible c := all_eq_true.mp (by decide)

section

variable (r : Request)

lemma visible_method : ∀ c ∈ r.method, isVisible c := by
  intro c hMem
  exact r.visible c (by simp [hMem])

lemma visible_portText : ∀ c ∈ r.portText, isVisible c := by
  unfold portText
  cases hPort : r.port with
  | none => simp
  | some text =>
    refine forall_mem_cons.mpr ⟨by decide, fun c hDigit => ?_⟩
    exact isVisible_of_isDigit (r.digits text hPort c hDigit)

lemma visible_authority : ∀ c ∈ r.authority, isVisible c := by
  have hHost : ∀ c ∈ r.host, isVisible c := by
    intro c hMem
    exact r.visible c (by simp [hMem])
  have hPort := r.visible_portText
  unfold authority
  split
  · simp only [forall_mem_cons, forall_mem_append]
    exact ⟨by decide, hHost, by decide, hPort⟩
  · exact forall_mem_append.mpr ⟨hHost, hPort⟩

lemma visible_uri : ∀ c ∈ r.uri, isVisible c := by
  simp only [uri, mem_append]
  rintro c (hMem | hMem | hMem)
  · exact r.visible_authority c hMem
  all_goals exact r.visible c (by simp [hMem])

lemma visible_target : ∀ c ∈ r.target, isVisible c := by
  simp only [target, forall_mem_cons, forall_mem_append]
  refine ⟨?_, by decide, by decide, by decide, r.visible_uri⟩
  intro c hMem
  exact r.visible c (by simp [hMem])

end

variable {text : List Char} {r : Request} {found : List Char × UInt16}

lemma isAscii_of_isVisible (hVisible : ∀ c ∈ text, isVisible c) : IsAscii text := by
  intro c hMem
  have hChar := hVisible c hMem
  simp only [isVisible, Bool.and_eq_true, decide_eq_true_eq] at hChar
  omega

lemma blank_not_mem_utf8Bytes (hVisible : ∀ c ∈ text, isVisible c) : 32 ∉ utf8Bytes text := by
  intro hMem
  rcases exists_of_mem_utf8Bytes (isAscii_of_isVisible hVisible) hMem with ⟨c, hChar, _⟩
  have hLow := hVisible c hChar
  simp only [isVisible, Bool.and_eq_true, decide_eq_true_eq] at hLow
  have hByte : (32 : UInt8).toNat = 32 := rfl
  omega

lemma bounds_of_mem_line {c : Char} (hMem : c ∈ r.line) : 32 ≤ c.toNat ∧ c.toNat < 128 := by
  have hVisible {c : Char} (hChar : isVisible c) : 32 ≤ c.toNat ∧ c.toNat < 128 := by
    simp only [isVisible, Bool.and_eq_true, decide_eq_true_eq] at hChar
    omega
  have hBlank : 32 ≤ ' '.toNat ∧ ' '.toNat < 128 := by decide
  simp only [line, mem_cons, mem_append] at hMem
  rcases hMem with hMem | rfl | hMem | rfl | hMem
  · exact hVisible (r.visible_method c hMem)
  · exact hBlank
  · exact hVisible (r.visible_target c hMem)
  · exact hBlank
  · exact hVisible (visible_version c hMem)

lemma isAscii_line (r : Request) : IsAscii r.line := fun _ hMem => (bounds_of_mem_line hMem).2

lemma not_mem_utf8Bytes_line
  {byte : UInt8} (hByte : byte.toNat < 32) (r : Request) : byte ∉ utf8Bytes r.line := by
  intro hMem
  rcases exists_of_mem_utf8Bytes r.isAscii_line hMem with ⟨c, hChar, _⟩
  have hLow := (bounds_of_mem_line hChar).1
  omega

-- Heads

lemma findHeadEnd_head (r : Request) (more : Bytes) :
  findHeadEnd (r.head ++ more) = some r.head.length := by
  have hLine : 13 ∉ utf8Bytes r.line := not_mem_utf8Bytes_line (by decide) r
  have hLines : ∀ line ∈ r.headers, line ≠ [] ∧ 13 ∉ line :=
    fun line hMem => ⟨(r.lines line hMem).1, (r.lines line hMem).2.1⟩
  rw [head, append_assoc, findHeadEnd_encodeLines hLine hLines more, length_append]
  rfl

lemma firstLine_append {line : Bytes} (hLine : 10 ∉ line) (rest : Bytes) :
  firstLine (line ++ 13 :: 10 :: rest) = line := by
  have hShape : line ++ 13 :: 10 :: rest = (line ++ [13]) ++ 10 :: rest := by simp
  have hNone : 10 ∉ line ++ [13] := by
    intro hMem
    rcases mem_append.mp hMem with hMem | hMem
    · exact hLine hMem
    · cases mem_singleton.mp hMem
  rw [firstLine, hShape, takeWhile_append_cons hNone]
  simp

lemma lineOf_head (r : Request) : lineOf r.head = r.line := by
  have hShape : r.head = utf8Bytes r.line ++ 13 :: 10 :: (encodeLines r.headers ++ crlf) := by
    simp [head, encodeLines, crlf]
  have hLine : 10 ∉ utf8Bytes r.line := not_mem_utf8Bytes_line (by decide) r
  rw [lineOf, hShape, utf8Lossy_utf8Bytes_append r.isAscii_line,
    utf8Lossy_cons (by decide), utf8Lossy_cons (by decide),
    firstLine_append hLine,
    utf8Decode_utf8Bytes r.isAscii_line]
  rfl

-- Request Lines

lemma splitWhitespace_line
  (r : Request) : splitWhitespace r.line = [r.method, r.target, version] := by
  have hTarget : r.target ≠ [] := by
    unfold target
    exact append_ne_nil_of_right_ne_nil _ (cons_ne_nil _ _)
  have hVersion : splitWhitespace version = [version] :=
    splitWhitespace_of_isVisible visible_version (by decide)
  rw [line, splitWhitespace_append_cons r.visible_method r.method_ne,
    splitWhitespace_append_cons r.visible_target hTarget, hVersion]

lemma stripFront_target (r : Request) (front scheme : String)
  (hFront : front.toList = scheme.toList ++ "://".toList) (hScheme : ':' ∉ scheme.toList) :
  stripFront front r.target = if r.scheme = scheme.toList then some r.uri
    else none := by
  have hColon : "://".toList = ':' :: '/' :: '/' :: [] := rfl
  rw [stripFront, hFront, hColon]
  split
  next hSame =>
    rw [isPrefixOf?_eq_some_iff_append_eq]
    simp [target, hSame]
  next hOther =>
    cases hRest : (scheme.toList ++ [':', '/', '/']).isPrefixOf? r.target with
    | none => rfl
    | some =>
      rw [isPrefixOf?_eq_some_iff_append_eq, append_assoc] at hRest
      have hEq := append_cons_inj hScheme r.scheme_plain hRest
      exact absurd hEq.1.symm hOther

def HasScheme : Prop := r.scheme = "http".toList ∨ r.scheme = "HTTP".toList

instance (r : Request) : Decidable r.HasScheme := inferInstanceAs
  (Decidable (r.scheme = "http".toList ∨ r.scheme = "HTTP".toList))

lemma defaultPort_of_hasScheme (hScheme : r.HasScheme) : r.defaultPort = 80 := by
  unfold defaultPort
  rcases hScheme with hScheme | hScheme
  all_goals
    rw [hScheme]
    decide

def IsConnect : Prop := sameIgnoringCase r.method "CONNECT".toList = true

instance (r : Request) : Decidable r.IsConnect := inferInstanceAs
  (Decidable (sameIgnoringCase r.method "CONNECT".toList = true))

lemma parseRequestLine_words (r : Request) {line version : List Char}
  (hWords : splitWhitespace line = [r.method, r.target, version]) : parseRequestLine line =
    if r.IsConnect then
      (parseAuthority r.target 443).map fun authority =>
        { method := r.method, authority := authority.1, port := authority.2, rewritten := none }
    else if r.HasScheme then parseAbsolute r.method r.uri version
    else none := by
  have hLower := r.stripFront_target "http://" "http" (by decide) (by decide)
  have hUpper := r.stripFront_target "HTTP://" "HTTP" (by decide) (by decide)
  rw [parseRequestLine, hWords]
  simp only
  by_cases hConnect : r.IsConnect
  · rw [if_pos hConnect]
    exact if_pos hConnect
  · rw [if_neg hConnect, hLower, hUpper]
    refine (if_neg hConnect).trans ?_
    by_cases hSame : r.scheme = "http".toList
    · have hHas : r.HasScheme := Or.inl hSame
      rw [if_pos hSame, if_pos hHas]
      rfl
    · rw [if_neg hSame]
      by_cases hOther : r.scheme = "HTTP".toList
      · have hHas : r.HasScheme := Or.inr hOther
        rw [if_pos hOther, if_pos hHas]
        rfl
      · have hNone : ¬ r.HasScheme := not_or.mpr ⟨hSame, hOther⟩
        rw [if_neg hOther, if_neg hNone]
        rfl

lemma parseRequestLine_line (r : Request) : parseRequestLine r.line = if r.IsConnect then
  (parseAuthority r.target 443).map fun authority =>
    { method := r.method, authority := authority.1, port := authority.2, rewritten := none }
  else if r.HasScheme then parseAbsolute r.method r.uri version
  else none :=
  r.parseRequestLine_words r.splitWhitespace_line

def Recognised : Prop :=
  if r.IsConnect then (parseAuthority r.target 443).isSome
  else r.HasScheme ∧ (parseAuthority (r.uri.takeWhile (· ≠ '/')) 80).isSome

lemma recognised_iff (r : Request) : r.Recognised ↔ (parseRequestLine r.line).isSome := by
  rw [Recognised, r.parseRequestLine_line]
  split
  · rw [Option.isSome_map]
  · by_cases hScheme : r.HasScheme
    · rw [if_pos hScheme, parseAbsolute, Option.isSome_map]
      simp [hScheme]
    · rw [if_neg hScheme]
      simp [hScheme]

-- Authorities

lemma colon_not_mem_digits (hPort : r.port = some text) : ':' ∉ text := by
  intro hMem
  exact Bool.false_ne_true (r.digits text hPort ':' hMem)

lemma port_of_digits {port : UInt16} (hPort : r.port = some text)
  (hParse : parseU16 text = some port) : port.toNat = r.portNumber := by
  have hValue := toNat_of_parseU16 (r.digits text hPort) hParse
  rw [portNumber, hPort]
  cases text with
  | nil => cases hParse
  | cons => exact hValue

section

variable (r : Request) (default : UInt16)

attribute [local simp] List.isPrefixOf?

lemma parseBracketed_host : parseBracketed (r.host ++ ']' :: r.portText) default =
  (r.port.elim (some default) parseU16).map fun port => (r.host, port) := by
  have hClose : ']' ∉ r.host := fun hMem => r.host_plain ']' hMem (by decide)
  have hHost : r.host.isEmpty = false := by simp [r.host_ne]
  have hInside : (r.host ++ ']' :: r.portText).contains ']' := by simp
  rw [parseBracketed, if_pos hInside, takeWhile_append_cons hClose, dropWhile_append_cons hClose]
  simp only [hHost, drop_succ_cons, drop_zero]
  cases hPort : r.port with
  | none =>
    simp only [portText, hPort, Option.elim]
    rfl
  | some text =>
    have hStrip : stripFront ":" r.portText = some text := by
      simp [portText, hPort, stripFront]
    rw [hStrip]
    rfl

lemma parseAuthority_host
  (hColon : ':' ∉ r.host) (hVisible : ∀ c ∈ r.host ++ r.portText, isVisible c) :
  parseAuthority (r.host ++ r.portText) default =
  (r.port.elim (some default) parseU16).map fun port => (r.host, port) := by
  have hEmpty : (r.host ++ r.portText).isEmpty = false := by simp [r.host_ne]
  have hOpen : stripFront "[" (r.host ++ r.portText) = none := by
    cases hHost : r.host with
    | nil => exact absurd hHost r.host_ne
    | cons c =>
      have hChar : ('[' == c) = false := by
        rw [beq_eq_false_iff_ne]
        rintro rfl
        have hMem : '[' ∈ r.host := by simp [hHost]
        exact r.host_plain '[' hMem (by decide)
      simp [stripFront, hChar]
  simp only [parseAuthority, trim_of_isVisible hVisible, hEmpty, hOpen]
  cases hPort : r.port with
  | none =>
    have hText : r.portText = [] := by simp [portText, hPort]
    rw [hText, append_nil, SmartDns.rsplitOnceColon_of_not_mem hColon]
    rfl
  | some text =>
    have hText : r.portText = ':' :: text := by simp [portText, hPort]
    have hHost : r.host.isEmpty = false := by simp [r.host_ne]
    have hNone : r.host.contains ':' = false := by simp [hColon]
    rw [hText, SmartDns.rsplitOnceColon_append_cons (colon_not_mem_digits hPort)]
    simp only [hNone, hHost]
    rfl

lemma parseAuthority_authority : parseAuthority r.authority
  default = (r.port.elim (some default) parseU16).map fun port => (r.host, port) := by
  have hVisible := r.visible_authority
  cases hBracketed : r.bracketed with
  | true =>
    have hShape : r.authority = '[' :: (r.host ++ ']' :: r.portText) := by
      simp [authority, hBracketed]
    have hOpen : stripFront "[" ('[' :: (r.host ++ ']' :: r.portText)) =
      some (r.host ++ ']' :: r.portText) := by simp [stripFront]
    rw [hShape] at hVisible ⊢
    simp only [parseAuthority, trim_of_isVisible hVisible, hOpen]
    exact r.parseBracketed_host default
  | false =>
    have hShape : r.authority = r.host ++ r.portText := by simp [authority, hBracketed]
    rw [hShape] at hVisible ⊢
    exact r.parseAuthority_host default (r.host_colon hBracketed) hVisible

end

lemma named_of_parseAuthority (hDefault : r.defaultPort = 80)
  (hParse : parseAuthority r.authority 80 = some found) :
  found.1 = r.host ∧ found.2.toNat = r.portNumber := by
  rw [parseAuthority_authority, Option.map_eq_some_iff] at hParse
  rcases hParse with ⟨port, hPort, rfl⟩
  refine ⟨rfl, ?_⟩
  cases hText : r.port with
  | none =>
    rw [hText] at hPort
    cases hPort
    simp [portNumber, hText, hDefault]
  | some =>
    rw [hText] at hPort
    exact port_of_digits hText hPort

-- Origin Form

def Plain : Prop := r.path ≠ [] ∨ r.query = []

lemma slash_not_mem_authority (r : Request) : '/' ∉ r.authority := by
  have hHost : '/' ∉ r.host := fun hMem => r.host_plain '/' hMem (by decide)
  have hPort : '/' ∉ r.portText := by
    unfold portText
    cases hPort : r.port with
    | none => exact not_mem_nil
    | some text =>
      intro hMem
      rcases mem_cons.mp hMem with hColon | hDigit
      · revert hColon
        decide
      · exact Bool.false_ne_true (r.digits text hPort '/' hDigit)
  unfold authority
  split
  all_goals simp [hHost, hPort]

def sentTarget : List Char :=
  let path := r.uri.dropWhile (· ≠ '/')
  if path.isEmpty then "/".toList else path

def sentLine : List Char :=
  r.method ++ " ".toList ++ r.sentTarget ++ " ".toList ++ version ++ "\r\n".toList

lemma parseAbsolute_uri
  {request : HttpRequestLine} (hParse : parseAbsolute r.method r.uri version = some request) :
  request.rewritten = some r.sentLine ∧
  parseAuthority (r.uri.takeWhile (· ≠ '/')) 80 = some (request.authority, request.port) := by
  unfold parseAbsolute at hParse
  rcases Option.map_eq_some_iff.mp hParse with ⟨found, hFound, rfl⟩
  exact ⟨rfl, hFound⟩

lemma uri_of_plain (hPlain : r.Plain) :
  r.uri.takeWhile (· ≠ '/') = r.authority ∧ r.uri.dropWhile (· ≠ '/') = r.path ++ r.query := by
  have hAuthority := r.slash_not_mem_authority
  cases hPath : r.path with
  | cons c rest =>
    have hSlash : c = '/' := by
      rcases r.path_front with hNil | hFront
      · rw [hPath] at hNil
        cases hNil
      · rw [hPath] at hFront
        exact Option.some.inj hFront
    have hShape : r.uri = r.authority ++ '/' :: (rest ++ r.query) := by simp [uri, hPath, hSlash]
    rw [hShape, takeWhile_append_cons hAuthority,
      dropWhile_append_cons hAuthority, hSlash]
    exact ⟨rfl, rfl⟩
  | nil =>
    have hQuery : r.query = [] := by
      rcases hPlain with hNe | hQuery
      · exact absurd hPath hNe
      · exact hQuery
    have hShape : r.uri = r.authority := by simp [uri, hPath, hQuery]
    have hAll : ∀ c ∈ r.authority, decide (c ≠ '/') := by
      intro c hMem
      rw [decide_eq_true_iff]
      rintro rfl
      exact hAuthority hMem
    rw [hShape, hQuery]
    exact ⟨takeWhile_eq_self_iff.mpr hAll, dropWhile_eq_nil_iff.mpr hAll⟩

lemma sentTarget_of_plain (hPlain : r.Plain) : r.sentTarget = r.originTarget := by
  rw [sentTarget, originTarget, (uri_of_plain hPlain).2]
  cases hPath : r.path with
  | cons => simp
  | nil =>
    rcases hPlain with hNe | hQuery
    · exact absurd hPath hNe
    · simp [hQuery]

lemma sentLine_of_plain (hPlain : r.Plain) : r.sentLine = r.originLine := by
  rw [sentLine, originLine, sentTarget_of_plain hPlain]
  simp

lemma length_sentTarget_lt (hPlain : ¬ r.Plain) : r.sentTarget.length < r.originTarget.length := by
  rcases not_or.mp hPlain with ⟨hPath, hQuery⟩
  have hPath : r.path = [] := not_not.mp hPath
  cases hText : r.query with
  | nil => exact absurd hText hQuery
  | cons c rest =>
    have hMark : c = '?' := by
      rcases r.query_front with hNil | hFront
      · exact absurd hNil hQuery
      · rw [hText] at hFront
        exact Option.some.inj hFront
    have hAll : ∀ d ∈ r.authority ++ [c], decide (d ≠ '/') := by
      intro d hMem
      rw [decide_eq_true_iff]
      rintro rfl
      rcases mem_append.mp hMem with hMem | hMem
      · exact r.slash_not_mem_authority hMem
      · rw [hMark] at hMem
        revert hMem
        decide
    have hShape : r.uri = (r.authority ++ [c]) ++ rest := by simp [uri, hPath, hText]
    have hDrop : r.uri.dropWhile (· ≠ '/') = rest.dropWhile (· ≠ '/') := by
      rw [hShape, dropWhile_append_of_pos hAll]
    have hLength : (rest.dropWhile (· ≠ '/')).length ≤ rest.length := length_dropWhile_le _ _
    unfold sentTarget originTarget
    rw [hDrop, hPath, hText]
    simp only
    split
    · simp
    · simp only [isEmpty_nil, if_true, length_append, length_cons]
      omega

lemma visible_sentTarget (r : Request) : ∀ c ∈ r.sentTarget, isVisible c := by
  unfold sentTarget
  simp only
  split
  · exact visible_root
  · intro c hMem
    exact r.visible_uri c ((dropWhile_sublist _).subset hMem)

lemma visible_originTarget (r : Request) : ∀ c ∈ r.originTarget, isVisible c := by
  unfold originTarget
  intro c hMem
  rcases mem_append.mp hMem with hMem | hMem
  · split at hMem
    · exact visible_root c hMem
    · exact r.visible c (by simp [hMem])
  · exact r.visible c (by simp [hMem])

lemma plain_of_front {rest : Bytes}
  (hFront : utf8Bytes r.originLine <+: utf8Bytes r.sentLine ++ rest) : r.Plain := by
  by_contra hPlain
  have hShort := length_sentTarget_lt hPlain
  have hBlank (text more : List Char) : utf8Bytes (text ++ ' ' :: more) =
    utf8Bytes text ++ 32 :: utf8Bytes more := by
    rw [utf8Bytes_append]
    rfl
  have hSent : r.sentLine = r.method ++ ' ' :: (r.sentTarget ++ ' ' ::
    (version ++ "\r\n".toList)) := by simp [sentLine]
  rw [hSent, originLine, hBlank, hBlank, hBlank, hBlank,
    append_assoc, prefix_append_right_inj, cons_append, prefix_cons_inj, append_assoc] at hFront
  rcases hFront with ⟨more, hEq⟩
  rw [append_assoc, cons_append, cons_append] at hEq
  have hTargets := (append_cons_inj (blank_not_mem_utf8Bytes r.visible_originTarget)
    (blank_not_mem_utf8Bytes r.visible_sentTarget) hEq).1
  have hLength := congrArg List.length hTargets
  rw [length_utf8Bytes (isAscii_of_isVisible r.visible_originTarget),
    length_utf8Bytes (isAscii_of_isVisible r.visible_sentTarget)] at hLength
  omega

end Request

end Kourosh.Socks
