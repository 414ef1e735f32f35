import Kourosh.Routing.Rules

/-
  Lists of rules as they are written.

  A list is cut at line ends, commas and semicolons, and a piece at its first colon.

  Main declarations
    * `parseList` : the rules of a list
    * `Means` : the rules that a line of the documented kinds stands for
    * `Tidy` : the lines that the cuts leave whole

  Correctness is proven by:
    * `rule_list_is_read_iff`
-/

-- Parsing

namespace Kourosh.Routing

open Text
open List

structure Library where
  -- `str::to_lowercase`
  toLowercase : List Char → List Char
  -- `str::parse` into an `IpNet` and an `IpAddr`
  ipNet : List Char → Option IpNet
  ipAddr : List Char → Option IpAddr
  -- `Regex::new` and `Regex::is_match`
  regex : List Char → Option (List Char → Bool)
  toLowercase_ascii : ∀ text, (∀ c ∈ text, c.toNat < 128) →
    toLowercase text = text.map Char.toLower
  toLowercase_ne_nil : ∀ text, text ≠ [] → toLowercase text ≠ []
  mem_toLowercase : ∀ text, ∀ c ∈ [',', ';'], c ∈ toLowercase text ↔ c ∈ text
  slash_mem : ∀ text, (ipNet text).isSome = true → '/' ∈ text
  slash_notMem : ∀ text, (ipAddr text).isSome = true → '/' ∉ text
  -- no address begins with a single colon
  ipNet_colon : ∀ text, (ipNet (':' :: text)).isSome = true → ipNet text = none
  ipAddr_colon : ∀ text, (ipAddr (':' :: text)).isSome = true → ipAddr text = none

/- `text.split_once(c)`. -/
def splitOnce (c : Char) (text : List Char) : Option (List Char × List Char) :=
  if c ∈ text then some (text.takeWhile (· ≠ c), (text.dropWhile (· ≠ c)).drop 1)
  else none

def bareDomain (name : List Char) : List Char :=
  ((name.dropWhile (· == '*')).dropWhile (· == '.')).rdropWhile (· == '.')

def normalizeDomain (lib : Library) (value : List Char) : Option (List Char) :=
  let cleaned := lib.toLowercase (bareDomain (trim value))
  if cleaned.isEmpty then none else some cleaned

def parseNet (lib : Library) (value : List Char) : Option IpNet :=
  let value := trim value
  (lib.ipNet value).or ((lib.ipAddr value).map IpNet.ofAddr)

def parsePorts (value : List Char) : Option (UInt16 × UInt16) :=
  let value := trim value
  match splitOnce '-' value with
  | some (lo, hi) => do
    let lo ← parseU16 (trim lo)
    let hi ← parseU16 (trim hi)
    return if hi < lo then (hi, lo) else (lo, hi)
  | none => do
    let single ← parseU16 value
    return (single, single)

inductive Kind where
  | suffix
  | full
  | keyword
  | regexp
  | net
  | port
  | geo
  | bare

def kinds : List (List Char × Kind) :=
  [("domain".toList, .suffix), ("suffix".toList, .suffix),
    ("full".toList, .full), ("exact".toList, .full),
    ("keyword".toList, .keyword), ("regexp".toList, .regexp),
    ("regex".toList, .regexp), ("ip".toList, .net), ("cidr".toList, .net),
    ("port".toList, .port), ("geoip".toList, .geo), ("geosite".toList, .geo),
    ([], .bare)]

def privateWord : List Char := "private".toList

namespace Matcher

def ofKind (lib : Library) (value : List Char) : Kind → Option Matcher
| .suffix => (normalizeDomain lib value).map .domainSuffix
| .full => (normalizeDomain lib value).map .domainFull
| .keyword =>
  let needle := lib.toLowercase (trim value)
  if needle.isEmpty then none else some (.domainKeyword needle)
| .regexp => (lib.regex value).map (.domainRegex value)
| .net => (parseNet lib value).map .net
| .port => (parsePorts value).map fun (lo, hi) => .ports lo hi
| .geo => if sameIgnoringCase value privateWord then some .priv else none
| .bare =>
  if sameIgnoringCase value privateWord then some .priv
  else
    match parseNet lib value with
    | some range => some (.net range)
    | none => (normalizeDomain lib value).map .domainSuffix

def parse (lib : Library) (entry : List Char) : Option Matcher :=
  let entry := trim entry
  if entry.isEmpty || entry.head? == some '#' then none
  else
    let (kind, value) :=
      match splitOnce ':' entry with
      | some (kind, value) =>
        if kind.contains '.' || kind.contains '/' then ([], entry)
        else (lib.toLowercase (trim kind), trim value)
      | none => ([], entry)
    (kinds.lookup kind).bind (ofKind lib value)

end Matcher

def isListSeparator (c : Char) : Bool := c == '\n' || c == ',' || c == ';'

def parseList (lib : Library) (raw : List Char) : List Matcher :=
  (raw.splitOnP isListSeparator).filterMap (Matcher.parse lib)

-- Entries As They Are Documented

def isAddressChar (c : Char) : Bool := "0123456789abcdefABCDEF.:/".toList.contains c

structure Literal (lib : Library) (text : List Char) (range : IpNet) : Prop where
  ne_nil : text ≠ []
  chars : ∀ c ∈ text, isAddressChar c = true
  range : if '/' ∈ text then lib.ipNet text = some range
    else ∃ ip, lib.ipAddr text = some ip ∧ range = .ofAddr ip

def IsTrimmed (text : List Char) : Prop := trim text = text

structure IsPort (digits : List Char) : Prop where
  ne_nil : digits ≠ []
  isDigit : ∀ c ∈ digits, c.isDigit = true
  lt : decimal digits < 65536

def portOf (digits : List Char) : UInt16 := UInt16.ofNat (decimal digits)

def portsBetween (a b : UInt16) : Matcher := if a ≤ b then .ports a b else .ports b a

inductive Means (lib : Library) : List Char → List Matcher → Prop where
  | blank : Means lib [] []
  | comment (text : List Char) : Means lib ('#' :: text) []
  | domain (name : List Char) (hTrim : IsTrimmed name) (hName : bareDomain name ≠ []) :
    Means lib ("domain".toList ++ ':' :: name) [.domainSuffix (lib.toLowercase (bareDomain name))]
  | full (name : List Char) (hTrim : IsTrimmed name) (hName : bareDomain name ≠ []) :
    Means lib ("full".toList ++ ':' :: name) [.domainFull (lib.toLowercase (bareDomain name))]
  | keyword (word : List Char) (hTrim : IsTrimmed word) (hWord : word ≠ []) :
    Means lib ("keyword".toList ++ ':' :: word) [.domainKeyword (lib.toLowercase word)]
  | regexp (pattern : List Char) (isMatch : List Char → Bool)
    (hValid : lib.regex pattern = some isMatch) :
    Means lib ("regexp".toList ++ ':' :: pattern) [.domainRegex pattern isMatch]
  | ip (word literal : List Char) (range : IpNet)
    (hWord : word = "ip".toList ∨ word = "cidr".toList)
    (hLiteral : Literal lib literal range) :
    Means lib (word ++ ':' :: literal) [.net range]
  | bareIp (literal : List Char) (range : IpNet)
    (hLiteral : Literal lib literal range) : Means lib literal [.net range]
  | port (digits : List Char) (hPort : IsPort digits) : Means lib ("port".toList ++ ':' :: digits)
    [.ports (portOf digits) (portOf digits)]
  | ports (lo hi : List Char) (hLo : IsPort lo) (hHi : IsPort hi) :
    Means lib ("port".toList ++ ':' :: (lo ++ '-' :: hi)) [portsBetween (portOf lo) (portOf hi)]
  | priv : Means lib privateWord [.priv]
  | name (name : List Char) (hTrim : IsTrimmed name) (hName : bareDomain name ≠ [])
    -- it reads as nothing else
    (hColon : ':' ∉ name) (hComment : name.head? ≠ some '#')
    (hPrivate : sameIgnoringCase name privateWord = false)
    (hNet : parseNet lib name = none) :
    Means lib name [.domainSuffix (lib.toLowercase (bareDomain name))]

structure Tidy (lib : Library) (line : List Char) : Prop where
  -- only a comment is cut, and no piece of it is an entry
  separators : ∀ piece ∈ (line.splitOnP isListSeparator).tail,
    line.head? = some '#' ∧ Matcher.parse lib piece = none
  -- a pattern keeps the blanks at its ends only if there are none
  pattern : ∀ pattern, line = "regexp".toList ++ ':' :: pattern → IsTrimmed pattern
  -- a bare address is not taken for a kind and a value
  colon : ∀ range kind value, Literal lib line range → splitOnce ':' line = some (kind, value) →
    '.' ∈ kind ∨ '/' ∈ kind

-- Pieces

variable {lib : Library} {word value text digits line : List Char} {kind : Kind}
variable {range : IpNet}

lemma splitOnce_of_not_mem {c : Char} (hNone : c ∉ text) : splitOnce c text = none := if_neg hNone

lemma splitOnce_append_cons {c : Char} (hWord : c ∉ word) :
  splitOnce c (word ++ c :: value) = some (word, value) := by
  rw [splitOnce, if_pos (by simp), takeWhile_append_cons hWord, dropWhile_append_cons hWord]
  rfl

lemma eq_of_splitOnce {c : Char} (hSplit : splitOnce c text = some (word, value)) :
  text = word ++ c :: value ∧ c ∉ word := by
  by_cases hMem : c ∈ text
  · rcases eq_append_cons_of_mem hMem with ⟨front, rest, rfl, hFront⟩
    rw [splitOnce_append_cons hFront] at hSplit
    cases hSplit
    exact ⟨rfl, hFront⟩
  · rw [splitOnce_of_not_mem hMem] at hSplit
    cases hSplit

lemma isTrimmed_append (hWord : ∀ c ∈ word, isVisible c)
  (hNe : word ≠ []) (hValue : IsTrimmed value) : IsTrimmed (word ++ value) := by
  have hFront : (word ++ value).dropWhile isWhitespace = word ++ value := by
    cases word with
    | nil => exact absurd rfl hNe
    | cons c =>
      have hFirst := isWhitespace_of_isVisible (hWord c mem_cons_self)
      exact dropWhile_cons_of_neg (by simp [hFirst])
  by_cases hNil : value = []
  · rw [hNil, append_nil]
    exact trim_of_isVisible hWord
  · have hLast : value.rdropWhile isWhitespace = value := by
      rw [← hValue, trim]
      exact rdropWhile_idempotent _ _
    rw [IsTrimmed, trim, hFront, rdropWhile_eq_self_iff]
    intro hAll
    rw [getLast_append_of_ne_nil hAll hNil]
    exact rdropWhile_eq_self_iff.mp hLast hNil

lemma toNat_of_isLower {c : Char} (hLower : c.isLower) : 97 ≤ c.toNat ∧ c.toNat ≤ 122 := by
  delta Char.isLower at hLower
  simp only [Bool.and_eq_true, decide_eq_true_eq] at hLower
  exact ⟨hLower.1, hLower.2⟩

lemma toLower_of_isLower {c : Char} (hLower : c.isLower) : c.toLower = c := by
  have hRange := toNat_of_isLower hLower
  apply Char.toNat_inj.mp
  rw [toNat_toLower, if_neg (by omega)]

lemma toLowercase_lower (hWord : word.all Char.isLower) : lib.toLowercase word = word := by
  have hLower : ∀ c ∈ word, c.isLower := all_eq_true.mp hWord
  rw [lib.toLowercase_ascii word fun c hMem => by
    have hRange := toNat_of_isLower (hLower c hMem)
    omega]
  rw [map_congr_left fun c hMem => toLower_of_isLower (hLower c hMem), map_id']

lemma Matcher.parse_kind
  (hWord : word.all Char.isLower) (hKind : kinds.lookup word = some kind) (hNe : word ≠ [])
  (hValue : IsTrimmed value) : parse lib (word ++ ':' :: value) = ofKind lib value kind := by
  have hLower : ∀ c ∈ word, c.isLower := all_eq_true.mp hWord
  have hOther : ∀ c : Char, c.isLower = false → c ∉ word :=
    fun c hNot hMem => absurd (hLower c hMem) (by simp [hNot])
  have hVisible : ∀ c ∈ word, isVisible c := by
    intro c hMem
    have hRange := toNat_of_isLower (hLower c hMem)
    simp only [isVisible, Bool.and_eq_true, decide_eq_true_eq]
    omega
  have hTrim : trim (word ++ ':' :: value) = word ++ ':' :: value := by
    have hColon : ∀ c ∈ word ++ [':'], isVisible c := by
      simpa [or_imp, forall_and] using ⟨hVisible, by decide⟩
    have hWhole := isTrimmed_append hColon (by simp) hValue
    rwa [append_assoc] at hWhole
  have hStart : ((word ++ ':' :: value).isEmpty ||
    (word ++ ':' :: value).head? == some '#') = false := by
    cases word with
    | nil => exact absurd rfl hNe
    | cons c =>
      have hFirst : c ≠ '#' := fun hEq => hOther '#' (by decide) (hEq ▸ mem_cons_self)
      simp [hFirst]
  rw [parse, hTrim, hStart, splitOnce_append_cons (hOther ':' (by decide))]
  simp [hOther '.' (by decide), hOther '/' (by decide), trim_of_isVisible hVisible,
    toLowercase_lower hWord, hKind, show trim value = value from hValue]

lemma Matcher.parse_bare (hTrim : IsTrimmed text) (hNe : text ≠ [])
  (hComment : text.head? ≠ some '#')
  (hColon : ∀ kind value, splitOnce ':' text = some (kind, value) → '.' ∈ kind ∨ '/' ∈ kind) :
  parse lib text = ofKind lib text .bare := by
  rw [parse, hTrim, if_neg (by simp [hNe, hComment])]
  cases hSplit : splitOnce ':' text with
  | none => rfl
  | some split =>
    rcases split with ⟨kind, value⟩
    have hKind := hColon kind value hSplit
    simp only [contains_eq_mem, hKind, Bool.or_eq_true, decide_eq_true_eq, if_true]
    rfl

lemma normalizeDomain_of_isTrimmed (hTrim : IsTrimmed text) (hName : bareDomain text ≠ []) :
  normalizeDomain lib text = some (lib.toLowercase (bareDomain text)) := by
  have hLower := lib.toLowercase_ne_nil _ hName
  rw [normalizeDomain, hTrim]
  simp [hLower]

namespace Literal

variable (hLiteral : Literal lib text range)
include hLiteral

lemma of_mem {p : Char → Bool} (hAll : "0123456789abcdefABCDEF.:/".toList.all p) :
  ∀ c ∈ text, p c :=
  fun c hMem => all_eq_true.mp hAll c (contains_iff_mem.mp (hLiteral.chars c hMem))

lemma isTrimmed : IsTrimmed text := trim_of_isVisible (hLiteral.of_mem (by decide))

lemma head?_ne : text.head? ≠ some '#' :=
  fun hHead => absurd (hLiteral.of_mem (p := (· ≠ '#')) (by decide) '#'
    (mem_of_head? hHead)) (by decide)

lemma not_private_of_subset (hValue : ∀ c ∈ value, c ∈ text) :
  sameIgnoringCase value privateWord = false := by
  refine Bool.eq_false_iff.mpr fun hSame => ?_
  have hMem : 'p' ∈ value.map Char.toLower := by
    rw [sameIgnoringCase, beq_iff_eq] at hSame
    rw [hSame]
    decide
  rcases mem_map.mp hMem with ⟨c, hMem, hLower⟩
  have hOther := hLiteral.of_mem (p := (·.toLower ≠ 'p')) (by decide) c (hValue c hMem)
  exact absurd hLower (by simpa using hOther)

lemma not_private : sameIgnoringCase text privateWord = false :=
  hLiteral.not_private_of_subset fun _ => id

lemma parseNet_eq : parseNet lib text = some range := by
  have hRange := hLiteral.range
  rw [parseNet, hLiteral.isTrimmed]
  split at hRange
  · simp [hRange]
  next hSlash =>
    rcases hRange with ⟨ip, hAddress, rfl⟩
    have hNone : lib.ipNet text = none :=
      Option.not_isSome_iff_eq_none.mp fun hSome => hSlash (lib.slash_mem text hSome)
    simp [hNone, hAddress]

end Literal

namespace IsPort

variable (hPort : IsPort digits)
include hPort

lemma isTrimmed : IsTrimmed digits :=
  trim_of_isVisible fun c hMem => isVisible_of_isDigit (hPort.isDigit c hMem)

lemma parseU16_eq : parseU16 digits = some (portOf digits) := by
  rw [parseU16_of_isDigit hPort.isDigit, if_neg (by simp [hPort.ne_nil]), if_pos hPort.lt]
  rfl

lemma dash_notMem : '-' ∉ digits := fun hMem => absurd (hPort.isDigit '-' hMem) (by decide)

lemma isTrimmed_range {hi : List Char} (hHi : IsPort hi) : IsTrimmed (digits ++ '-' :: hi) := by
  refine isTrimmed_append (fun c hMem => isVisible_of_isDigit
    (hPort.isDigit c hMem)) hPort.ne_nil (trim_of_isVisible fun c hMem => ?_)
  rcases mem_cons.mp hMem with rfl | hMem
  · decide
  · exact isVisible_of_isDigit (hHi.isDigit c hMem)

end IsPort

-- Lists

lemma Matcher.parse_comment (rest : List Char) : parse lib ('#' :: rest) = none := by
  have hFront : trim ('#' :: rest) <+: '#' :: rest := rdropWhile_prefix _ _
  rw [parse, if_pos]
  cases hTrim : trim ('#' :: rest) with
  | nil => rfl
  | cons =>
    rw [hTrim] at hFront
    rw [(cons_prefix_cons.mp hFront).1]
    rfl

lemma Matcher.parse_of_means {rules : List Matcher} (hTidy : Tidy lib line)
  (hMeans : Means lib line rules) : (parse lib line).toList = rules := by
  cases hMeans with
  | blank | priv => rfl
  | comment text => rw [parse_comment, Option.toList_none]
  | domain name hTrim hName | full name hTrim hName =>
    rw [parse_kind (by decide) rfl (by decide) hTrim, ofKind,
      normalizeDomain_of_isTrimmed hTrim hName]
    rfl
  | keyword word hTrim hWord =>
    have hLower := lib.toLowercase_ne_nil word hWord
    rw [parse_kind (by decide) rfl (by decide) hTrim, ofKind, hTrim]
    simp [hLower]
  | regexp pattern _ hValid =>
    rw [parse_kind (by decide) rfl (by decide) (hTidy.pattern pattern rfl), ofKind, hValid]
    rfl
  | ip _ _ _ hWord hLiteral =>
    rcases hWord with rfl | rfl
    all_goals
      rw [parse_kind (by decide) rfl (by decide) hLiteral.isTrimmed, ofKind, hLiteral.parseNet_eq]
      rfl
  | bareIp _ range hLiteral =>
    rw [parse_bare hLiteral.isTrimmed hLiteral.ne_nil hLiteral.head?_ne
      fun kind value => hTidy.colon range kind value hLiteral, ofKind, if_neg (by simp [hLiteral.not_private]),
      hLiteral.parseNet_eq]
    rfl
  | port _ hPort =>
    rw [parse_kind (by decide) rfl (by decide) hPort.isTrimmed, ofKind, parsePorts,
      hPort.isTrimmed, splitOnce_of_not_mem hPort.dash_notMem, hPort.parseU16_eq]
    rfl
  | ports lo hi hLo hHi =>
    have hTrim := hLo.isTrimmed_range hHi
    rw [parse_kind (by decide) rfl (by decide) hTrim, ofKind, parsePorts, hTrim,
      splitOnce_append_cons hLo.dash_notMem]
    simp only [show trim lo = lo from hLo.isTrimmed, hLo.parseU16_eq,
      show trim hi = hi from hHi.isTrimmed, hHi.parseU16_eq]
    rw [portsBetween]
    by_cases hLt : portOf hi < portOf lo
    · simp [hLt, UInt16.not_le.mpr hLt]
    · simp [hLt, UInt16.not_lt.mp hLt]
  | name _ hTrim hName hColon hComment hPrivate hNet =>
    have hNe : line ≠ [] := by
      rintro rfl
      exact hName rfl
    have hSplit : ∀ kind value, splitOnce ':' line = some (kind, value) →
        '.' ∈ kind ∨ '/' ∈ kind := by
      intro kind value hSplit
      rw [splitOnce_of_not_mem hColon] at hSplit
      cases hSplit
    rw [parse_bare hTrim hNe hComment hSplit, ofKind, hPrivate, hNet,
      normalizeDomain_of_isTrimmed hTrim hName]
    rfl

-- What The Cuts Destroy

/- The text that a rule keeps of its entry. -/
def Matcher.kept : Matcher → List Char
| .domainSuffix suffix => suffix
| .domainFull full => full
| .domainKeyword needle => needle
| .domainRegex pattern _ => pattern
| _ => []

variable {c : Char} {rule : Matcher} {rules : List Matcher}

lemma mem_of_mem_trim (hMem : c ∈ trim text) : c ∈ text :=
  (dropWhile_suffix _).subset (( rdropWhile_prefix _ _).subset hMem)

lemma mem_of_mem_bareDomain (hMem : c ∈ bareDomain text) : c ∈ text :=
  (dropWhile_suffix _).subset ((dropWhile_suffix _).subset (( rdropWhile_prefix _ _).subset hMem))

lemma mem_dropWhile {p : Char → Bool} (hChar : p c = false) (hMem : c ∈ text) :
  c ∈ text.dropWhile p := by
  rw [← takeWhile_append_dropWhile (p := p) (l := text), mem_append] at hMem
  rcases hMem with hMem | hMem
  · rw [mem_takeWhile_imp hMem] at hChar
    cases hChar
  · exact hMem

lemma mem_bareDomain (hDot : c ≠ '.') (hStar : c ≠ '*') (hMem : c ∈ text) :
  c ∈ bareDomain text := by
  have hDotted : (c == '.') = false := by simpa using hDot
  have hStarred : (c == '*') = false := by simpa using hStar
  have hFront := mem_dropWhile (p := (· == '.')) hDotted (mem_dropWhile (p := (· == '*')) hStarred hMem)
  rw [bareDomain, rdropWhile, mem_reverse]
  exact mem_dropWhile (p := (· == '.')) hDotted (mem_reverse.mpr hFront)

lemma mem_of_normalizeDomain (hSep : c ∈ [',', ';'])
  (hName : normalizeDomain lib value = some word) (hMem : c ∈ word) : c ∈ value := by
  unfold normalizeDomain at hName
  dsimp only at hName
  split at hName
  · cases hName
  · cases hName
    exact mem_of_mem_trim (mem_of_mem_bareDomain ((lib.mem_toLowercase _ c hSep).mp hMem))

/- A separator in the text of a rule was one in its value. -/
lemma Matcher.mem_of_ofKind (hSep : c ∈ [',', ';'])
  (hRule : ofKind lib value kind = some rule) (hMem : c ∈ rule.kept) : c ∈ value := by
  cases kind with
  | suffix | full =>
    rcases Option.map_eq_some_iff.mp hRule with ⟨name, hName, rfl⟩
    exact mem_of_normalizeDomain hSep hName hMem
  | keyword =>
    simp only [ofKind] at hRule
    split at hRule
    · cases hRule
    · cases hRule
      exact mem_of_mem_trim ((lib.mem_toLowercase _ c hSep).mp hMem)
  | regexp =>
    rcases Option.map_eq_some_iff.mp hRule with ⟨isMatch, _, rfl⟩
    exact hMem
  | net | port =>
    rcases Option.map_eq_some_iff.mp hRule with ⟨_, _, rfl⟩
    cases hMem
  | geo =>
    simp only [ofKind] at hRule
    split at hRule
    · cases hRule
      cases hMem
    · cases hRule
  | bare =>
    simp only [ofKind] at hRule
    split at hRule
    · cases hRule
      cases hMem
    · split at hRule
      · cases hRule
        cases hMem
      · rcases Option.map_eq_some_iff.mp hRule with ⟨name, hName, rfl⟩
        exact mem_of_normalizeDomain hSep hName hMem

/- What a piece is read as: one of the kinds, with a value of the piece. -/
lemma Matcher.parse_eq_some (hRule : parse lib text = some rule) :
  ∃ kind value, ofKind lib value kind = some rule ∧ (∀ c ∈ value, c ∈ text) ∧ IsTrimmed value := by
  unfold parse at hRule
  dsimp only at hRule
  split at hRule
  · cases hRule
  rcases Option.bind_eq_some_iff.mp hRule with ⟨kind, _, hKind⟩
  refine ⟨kind, _, hKind, ?_⟩
  split
  next word value hSplit =>
    split
    · exact ⟨fun c => mem_of_mem_trim, trim_trim _⟩
    · refine ⟨fun c hMem => ?_, trim_trim _⟩
      have hText := (eq_of_splitOnce hSplit).1
      apply mem_of_mem_trim
      rw [hText]
      exact mem_append_right _ (mem_cons_of_mem _ (mem_of_mem_trim hMem))
  · exact ⟨fun c => mem_of_mem_trim, trim_trim _⟩

lemma isTrimmed_of_parse {pattern : List Char} {isMatch : List Char → Bool}
  (hRule : Matcher.parse lib text = some (.domainRegex pattern isMatch)) : IsTrimmed pattern := by
  rcases Matcher.parse_eq_some hRule with ⟨kind, value, hKind, -, hTrim⟩
  cases kind with
  | suffix | full | net | port =>
    rcases Option.map_eq_some_iff.mp hKind with ⟨_, _, hRule⟩
    cases hRule
  | regexp =>
    rcases Option.map_eq_some_iff.mp hKind with ⟨_, _, hRule⟩
    cases hRule
    exact hTrim
  | keyword | geo =>
    simp only [Matcher.ofKind] at hKind
    split at hKind <;> cases hKind
  | bare =>
    simp only [Matcher.ofKind] at hKind
    split at hKind
    · cases hKind
    · split at hKind
      · cases hKind
      · rcases Option.map_eq_some_iff.mp hKind with ⟨_, _, hRule⟩
        cases hRule

/- A separator of an entry stands in the text of its rule. -/
lemma exists_mem_kept (hMeans : Means lib line rules) (hComment : line.head? ≠ some '#')
  (hSep : c ∈ [',', ';']) (hMem : c ∈ line) : ∃ rule ∈ rules, c ∈ rule.kept := by
  have hDot : c ≠ '.' := by
    rintro rfl
    exact absurd hSep (by decide)
  have hStar : c ≠ '*' := by
    rintro rfl
    exact absurd hSep (by decide)
  have hName : ∀ name, c ∈ name → c ∈ lib.toLowercase (bareDomain name) := fun name hMem =>
    (lib.mem_toLowercase _ c hSep).mpr (mem_bareDomain hDot hStar hMem)
  have hValue : ∀ word value : List Char, (word ++ [':']).all (· ∉ [',', ';']) →
      c ∈ word ++ ':' :: value → c ∈ value := by
    intro word value hNone hMem
    rw [append_cons, mem_append] at hMem
    refine hMem.resolve_left fun hMem => ?_
    exact absurd hSep (of_decide_eq_true (all_eq_true.mp hNone c hMem))
  have hDigits : ∀ digits, IsPort digits → c ∉ digits := by
    intro digits hPort hMem
    have hDigit := hPort.isDigit c hMem
    simp only [mem_cons, not_mem_nil, or_false] at hSep
    rcases hSep with rfl | rfl <;> cases hDigit
  cases hMeans with
  | blank => cases hMem
  | comment => exact absurd rfl hComment
  | domain name | full name =>
    exact ⟨_, mem_cons_self, hName name (hValue _ _ (by decide) hMem)⟩
  | keyword word =>
    exact ⟨_, mem_cons_self, (lib.mem_toLowercase _ c hSep).mpr (hValue _ _ (by decide) hMem)⟩
  | regexp pattern isMatch => exact ⟨_, mem_cons_self, hValue _ _ (by decide) hMem⟩
  | ip word literal range hWord hLiteral =>
    have hMem : c ∈ literal := by
      rcases hWord with rfl | rfl
      · exact hValue _ _ (by decide) hMem
      · exact hValue _ _ (by decide) hMem
    have hChar := hLiteral.of_mem (p := (· ∉ [',', ';'])) (by decide) c hMem
    exact absurd hSep (of_decide_eq_true hChar)
  | bareIp literal range hLiteral =>
    have hChar := hLiteral.of_mem (p := (· ∉ [',', ';'])) (by decide) c hMem
    exact absurd hSep (of_decide_eq_true hChar)
  | port digits hPort => exact absurd (hValue _ _ (by decide) hMem) (hDigits _ hPort)
  | ports lo hi hLo hHi =>
    have hMem := hValue _ _ (by decide) hMem
    rw [mem_append, mem_cons] at hMem
    rcases hMem with hMem | rfl | hMem
    · exact absurd hMem (hDigits _ hLo)
    · exact absurd hSep (by decide)
    · exact absurd hMem (hDigits _ hHi)
  | priv =>
    have hNone : privateWord.all (· ∉ [',', ';']) := by decide
    exact absurd hSep (of_decide_eq_true (all_eq_true.mp hNone c hMem))
  | name => exact ⟨_, mem_cons_self, hName _ hMem⟩

/- Hexadecimal digits make no kind. -/
lemma lookup_kinds_of_literal (hChars : ∀ c ∈ word, isAddressChar c = true)
  (hDot : '.' ∉ word) (hSlash : '/' ∉ word) (hColon : ':' ∉ word) (hNe : word ≠ []) :
  kinds.lookup (word.map Char.toLower) = none := by
  have hHex : ∀ c ∈ word.map Char.toLower, c ∈ "0123456789abcdef".toList := by
    intro c hMem
    rcases mem_map.mp hMem with ⟨d, hWord, rfl⟩
    have hAll : "0123456789abcdefABCDEF.:/".toList.all fun d =>
        d = '.' ∨ d = '/' ∨ d = ':' ∨ d.toLower ∈ "0123456789abcdef".toList := by decide
    have hChar := all_eq_true.mp hAll d (contains_iff_mem.mp (hChars d hWord))
    rcases of_decide_eq_true hChar with rfl | rfl | rfl | hHex
    · exact absurd hWord hDot
    · exact absurd hWord hSlash
    · exact absurd hWord hColon
    · exact hHex
  rw [lookup_eq_none_iff]
  rintro ⟨key, kind⟩ hKey
  have hKeys : kinds.all fun entry =>
      entry.1.isEmpty || entry.1.any (· ∉ "0123456789abcdef".toList) := by decide
  have hOther := all_eq_true.mp hKeys _ hKey
  simp only [bne_iff_ne, ne_eq]
  rintro rfl
  rw [Bool.or_eq_true, List.isEmpty_iff, any_eq_true] at hOther
  rcases hOther with hNil | ⟨c, hMem, hNot⟩
  · exact hNe (map_eq_nil_iff.mp hNil)
  · exact of_decide_eq_true hNot (hHex c hMem)

/- Behind its first colon, an address that began with it is none. -/
lemma Literal.parseNet_tail (hLiteral : Literal lib (':' :: value) range)
  (hTrim : IsTrimmed value) : parseNet lib value = none := by
  have hRange := hLiteral.range
  rw [parseNet, hTrim]
  split at hRange
  next hSlash =>
    have hMem : '/' ∈ value := (mem_cons.mp hSlash).resolve_left (by decide)
    have hAddr : lib.ipAddr value = none :=
      Option.not_isSome_iff_eq_none.mp fun hSome => lib.slash_notMem value hSome hMem
    simp [lib.ipNet_colon value (by simp [hRange]), hAddr]
  next hSlash =>
    rcases hRange with ⟨ip, hAddress, -⟩
    have hNet : lib.ipNet value = none :=
      Option.not_isSome_iff_eq_none.mp fun hSome =>
        hSlash (mem_cons_of_mem _ (lib.slash_mem value hSome))
    simp [hNet, lib.ipAddr_colon value (by simp [hAddress])]

/- An address that is cut at a colon is not read as one. -/
lemma Literal.parse_ne (hLiteral : Literal lib line range)
  (hSplit : splitOnce ':' line = some (word, value)) (hDot : '.' ∉ word) (hSlash : '/' ∉ word) :
  Matcher.parse lib line ≠ some (.net range) := by
  rcases eq_of_splitOnce hSplit with ⟨rfl, hColon⟩
  have hVisible : ∀ c ∈ word ++ ':' :: value, isVisible c := hLiteral.of_mem (by decide)
  have hWord : trim word = word :=
    trim_of_isVisible fun c hMem => hVisible c (mem_append_left _ hMem)
  have hValue : trim value = value :=
    trim_of_isVisible fun c hMem => hVisible c (mem_append_right _ (mem_cons_of_mem _ hMem))
  have hLower : lib.toLowercase word = word.map Char.toLower := by
    refine lib.toLowercase_ascii word fun c hMem => ?_
    have hAscii := hLiteral.of_mem (p := (·.toNat < 128)) (by decide) c (mem_append_left _ hMem)
    exact of_decide_eq_true hAscii
  have hKind : (word.contains '.' || word.contains '/') = false := by simp [hDot, hSlash]
  rw [Matcher.parse, hLiteral.isTrimmed, if_neg (by simpa using hLiteral.head?_ne), hSplit]
  simp only [hKind, Bool.false_eq_true, if_false, hWord, hValue, hLower]
  by_cases hNil : word = []
  · subst hNil
    have hLookup : kinds.lookup ([].map Char.toLower) = some Kind.bare := rfl
    have hPrivate := hLiteral.not_private_of_subset fun c => mem_append_right [] ∘ mem_cons_of_mem _
    rw [hLookup, Option.bind_some, Matcher.ofKind, hPrivate, hLiteral.parseNet_tail hValue]
    simp
  · rw [lookup_kinds_of_literal (fun c hMem => hLiteral.chars c (mem_append_left _ hMem)) hDot
      hSlash hColon hNil]
    simp

-- Single Lines

lemma notMem_of_mem_splitOnP {piece : List Char} (hMem : piece ∈ text.splitOnP isListSeparator)
  (hSep : isListSeparator c = true) : c ∉ piece := by
  induction text generalizing piece with
  | nil =>
    rw [splitOnP_nil, mem_singleton] at hMem
    simp [hMem]
  | cons d text ih =>
    rw [splitOnP_cons_eq_if_modifyHead] at hMem
    split at hMem
    · rcases mem_cons.mp hMem with rfl | hMem
      · simp
      · exact ih hMem
    next hOther =>
      cases hPieces : text.splitOnP isListSeparator with
      | nil => exact absurd hPieces (splitOnP_ne_nil _ _)
      | cons first rest =>
        rw [hPieces] at hMem ih
        rcases mem_cons.mp hMem with rfl | hMem
        · rw [mem_cons, not_or]
          refine ⟨?_, ih mem_cons_self⟩
          rintro rfl
          exact hOther hSep
        · exact ih (mem_cons_of_mem _ hMem)

lemma of_splitOnP_tail (hTail : (text.splitOnP isListSeparator).tail = []) :
  ∀ c ∈ text, isListSeparator c = false := by
  induction text with
  | nil => simp
  | cons d text ih =>
    rw [splitOnP_cons_eq_if_modifyHead] at hTail
    split at hTail
    · exact absurd hTail (splitOnP_ne_nil _ _)
    next hOther =>
      rw [tail_modifyHead] at hTail
      exact forall_mem_cons.mpr ⟨Bool.eq_false_iff.mpr hOther, ih hTail⟩

lemma Means.eq_nil (hMeans : Means lib line rules) (hComment : line.head? = some '#') :
  rules = [] := by
  cases hMeans with
  | blank | comment => rfl
  | domain | full | keyword | regexp | port | ports | priv => cases hComment
  | ip word literal range hWord =>
    rcases hWord with rfl | rfl
    · cases hComment
    · cases hComment
  | bareIp literal range hLiteral => exact absurd hComment hLiteral.head?_ne
  | name _ _ _ _ hOther => exact absurd hComment hOther

lemma Means.pattern_of_eq {pattern : List Char} (hMeans : Means lib line rules)
  (hLine : line = "regexp".toList ++ ':' :: pattern) :
  ∃ isMatch, rules = [.domainRegex pattern isMatch] := by
  cases hMeans with
  | blank | comment | domain | full | keyword | port | ports | priv => cases hLine
  | regexp _ isMatch =>
    cases hLine
    exact ⟨isMatch, rfl⟩
  | ip word literal range hWord =>
    rcases hWord with rfl | rfl
    · cases hLine
    · cases hLine
  | bareIp literal range hLiteral =>
    have hChar := hLiteral.chars 'r' (by simp [hLine])
    exact absurd hChar (by decide)
  | name _ _ _ hColon => exact absurd (by simp [hLine]) hColon

lemma Means.net_of_literal (hMeans : Means lib line rules) (hLiteral : Literal lib line range)
  (hColon : ':' ∈ line) : rules = [.net range] := by
  have hOther : ∀ c ∈ line, isAddressChar c = true := hLiteral.chars
  cases hMeans with
  | blank => cases hColon
  | comment => exact absurd (hOther '#' mem_cons_self) (by decide)
  | domain => exact absurd (hOther 'o' (by simp)) (by decide)
  | full => exact absurd (hOther 'u' (by simp)) (by decide)
  | keyword => exact absurd (hOther 'k' (by simp)) (by decide)
  | regexp | port | ports | priv => exact absurd (hOther 'r' (by simp [privateWord])) (by decide)
  | ip word literal _ hWord =>
    have hMem : 'i' ∈ word ++ ':' :: literal := by rcases hWord with rfl | rfl <;> simp
    exact absurd (hOther 'i' hMem) (by decide)
  | bareIp _ _ hSame =>
    have hRange := hSame.parseNet_eq.symm.trans hLiteral.parseNet_eq
    cases hRange
    rfl
  | name _ _ _ hNone => exact absurd hColon hNone

lemma parseList_singleton (hNone : ∀ c ∈ line, isListSeparator c = false) :
  parseList lib line = (Matcher.parse lib line).toList := by
  rw [parseList, splitOnP_eq_singleton hNone]
  cases hParse : Matcher.parse lib line <;> simp [hParse]

lemma parseList_comment (rest : List Char) :
  parseList lib ('#' :: rest) =
    (('#' :: rest).splitOnP isListSeparator).tail.filterMap (Matcher.parse lib) := by
  rw [parseList, splitOnP_cons_eq_if_modifyHead, if_neg (by decide)]
  cases hPieces : rest.splitOnP isListSeparator with
  | nil => exact absurd hPieces (splitOnP_ne_nil _ _)
  | cons first pieces =>
    rw [modifyHead_cons, filterMap_cons, Matcher.parse_comment, tail_cons]

/- A line is read as what it stands for if and only if the cuts leave it whole. -/
lemma parseList_line_iff (hLine : '\n' ∉ line) (hMeans : Means lib line rules) :
  parseList lib line = rules ↔ Tidy lib line := by
  by_cases hNone : ∀ c ∈ line, isListSeparator c = false
  · rw [parseList_singleton hNone]
    constructor
    · intro hRules
      constructor
      · simp [splitOnP_eq_singleton hNone]
      · intro pattern hPattern
        rcases hMeans.pattern_of_eq hPattern with ⟨isMatch, hRegex⟩
        rw [hRegex, Option.toList_eq_singleton_iff] at hRules
        exact isTrimmed_of_parse hRules
      · intro range kind value hLiteral hSplit
        by_contra hKind
        rw [not_or] at hKind
        have hColon : ':' ∈ line := by simp [(eq_of_splitOnce hSplit).1]
        rw [hMeans.net_of_literal hLiteral hColon, Option.toList_eq_singleton_iff] at hRules
        exact hLiteral.parse_ne hSplit hKind.1 hKind.2 hRules
    · exact fun hTidy => Matcher.parse_of_means hTidy hMeans
  · -- a separator leaves its mark on the rule, unless there is none
    push Not at hNone
    rcases hNone with ⟨c, hMem, hSep⟩
    rw [Bool.ne_false_iff] at hSep
    have hCut : (line.splitOnP isListSeparator).tail ≠ [] := by
      intro hTail
      rw [of_splitOnP_tail hTail c hMem] at hSep
      cases hSep
    have hOther : c ∈ [',', ';'] := by
      have hNotLine : c ≠ '\n' := by
        rintro rfl
        exact hLine hMem
      simpa [isListSeparator, hNotLine] using hSep
    by_cases hComment : line.head? = some '#'
    · rcases head?_eq_some_iff.mp hComment with ⟨rest, rfl⟩
      rw [hMeans.eq_nil hComment, parseList_comment, filterMap_eq_nil_iff]
      refine ⟨fun hEntries => ⟨fun piece hPiece => ⟨rfl, hEntries piece hPiece⟩, nofun, ?_⟩,
        fun hTidy piece hPiece => (hTidy.separators piece hPiece).2⟩
      intro range kind value hLiteral
      exact absurd hComment hLiteral.head?_ne
    · refine iff_of_false ?_ ?_
      · rintro rfl
        rcases exists_mem_kept hMeans hComment hOther hMem with ⟨rule, hRule, hKept⟩
        rcases mem_filterMap.mp hRule with ⟨piece, hPiece, hParse⟩
        rcases Matcher.parse_eq_some hParse with ⟨kind, value, hKind, hValue, -⟩
        exact notMem_of_mem_splitOnP hPiece hSep
          (hValue c (Matcher.mem_of_ofKind hOther hKind hKept))
      · intro hTidy
        rcases exists_mem_of_ne_nil _ hCut with ⟨piece, hPiece⟩
        exact hComment (hTidy.separators piece hPiece).1

-- Lists

/- Lines do not touch each other. -/
lemma parseList_lines (lines : List (List Char)) :
  parseList lib (['\n'].intercalate lines) = lines.flatMap (parseList lib) := by
  induction lines with
  | nil => rfl
  | cons line lines ih =>
    cases lines with
    | nil => simp
    | cons next lines =>
      rw [intercalate_cons_cons, append_assoc, singleton_append, parseList,
        splitOnP_append_cons _ _ rfl, filterMap_append, flatMap_cons, ← ih]
      rfl

/- Every line gives its own rules, and the list gives them in the order of the lines. -/
def ReadAsWritten (lib : Library) (lines : List (List Char × List Matcher)) : Prop :=
  (∀ line ∈ lines, parseList lib line.1 = line.2) ∧
    parseList lib (['\n'].intercalate (lines.map Prod.fst)) = lines.flatMap Prod.snd

/-
  A list of documented entries and comments, one in a line, is read as the rules it stands for, if
  and only if the cuts leave every line whole.
-/
theorem rule_list_is_read_iff
    (lines : List (List Char × List Matcher))
    (hMeans : ∀ line ∈ lines, '\n' ∉ line.1 ∧ Means lib line.1 line.2) :
    ReadAsWritten lib lines ↔ ∀ line ∈ lines, Tidy lib line.1 := by
  have hLines : (∀ line ∈ lines, parseList lib line.1 = line.2) ↔
      ∀ line ∈ lines, Tidy lib line.1 :=
    forall₂_congr fun line hMem => parseList_line_iff (hMeans line hMem).1 (hMeans line hMem).2
  rw [ReadAsWritten, hLines]
  refine and_iff_left_of_imp fun hTidy => ?_
  rw [parseList_lines, flatMap_map]
  exact flatMap_congr (hLines.mpr hTidy)

def plainLibrary : Library where
  toLowercase text := text.map Char.toLower
  ipNet _ := none
  ipAddr text := if text = "::1".toList then some (.v6 ⟨1⟩) else none
  regex pattern := some fun name => decide (pattern <:+: name)
  toLowercase_ascii _ _ := rfl
  toLowercase_ne_nil := by simp
  mem_toLowercase := by
    intro text c hSep
    rw [mem_map]
    constructor
    · rintro ⟨d, hMem, hLower⟩
      have hSame : d = c := by
        refine eq_of_toLower_eq ?_ hLower
        simp only [mem_cons, not_mem_nil, or_false] at hSep
        rcases hSep with rfl | rfl <;> decide
      rwa [← hSame]
    · intro hMem
      refine ⟨c, hMem, ?_⟩
      simp only [mem_cons, not_mem_nil, or_false] at hSep
      rcases hSep with rfl | rfl <;> rfl
  slash_mem := nofun
  slash_notMem := by
    intro text hSome
    split at hSome
    next hText =>
      rw [hText]
      decide
    · cases hSome
  ipNet_colon := nofun
  ipAddr_colon := by
    intro text hSome
    split at hSome
    next hText =>
      cases hText
      rfl
    · cases hSome

/- A comment that is cut, a name and a range of ports. -/
theorem comment_and_name_are_read :
    ReadAsWritten plainLibrary [("# banks;".toList, []),
      ("bank.example".toList, [.domainSuffix "bank.example".toList]),
      ("port:90-80".toList, [.ports 80 90])] := by
  refine (rule_list_is_read_iff _ ?_).mpr ?_
  · simp only [forall_mem_cons]
    refine ⟨⟨by decide, .comment _⟩, ⟨by decide, .name _ rfl (by decide)
      (by decide) (by decide) (by decide) (by decide)⟩, ⟨by decide, ?_⟩, nofun⟩
    exact .ports "90".toList "80".toList ⟨by decide, all_eq_true.mp (by decide), by decide⟩
      ⟨by decide, all_eq_true.mp (by decide), by decide⟩
  · simp only [forall_mem_cons]
    refine ⟨⟨?_, nofun, ?_⟩, ⟨nofun, nofun, nofun⟩, ⟨nofun, nofun, ?_⟩, nofun⟩
    · intro piece hPiece
      rw [mem_singleton.mp hPiece]
      exact ⟨rfl, rfl⟩
    · intro range kind value hLiteral
      exact absurd (hLiteral.chars '#' (by simp)) (by decide)
    · intro range kind value hLiteral
      exact absurd (hLiteral.chars 'p' (by simp)) (by decide)

/-
  A comma in a pattern gives two rules for one entry, and an IPv6 address gives a rule for a name.
-/
theorem separator_cuts_pattern :
    (Means plainLibrary "regexp:a,b".toList
      [.domainRegex "a,b".toList fun name => decide ("a,b".toList <:+: name)] ∧
      (parseList plainLibrary "regexp:a,b".toList).length = 2) ∧
    Means plainLibrary "::1".toList [.net (.v6 ⟨1⟩ 128)] ∧
      parseList plainLibrary "::1".toList = [.domainSuffix ":1".toList] := by
  refine ⟨⟨.regexp "a,b".toList _ rfl, by decide⟩,
    .bareIp _ _ ⟨by decide, all_eq_true.mp (by decide), ?_⟩, rfl⟩
  exact ⟨_, rfl, rfl⟩

end Kourosh.Routing
