import Kourosh.SmartDns.Endpoint

/-
  The destinations the engine dials for resolver entries.

  An entry is parsed into an endpoint that keeps the host, and for DoH a URL.

  Correctness is proven by:
    * `dialled_as_written_iff`
-/

-- Dialling

namespace Kourosh.SmartDns

open Text DnsEndpoint Char
open List

def hostPort (raw : List Char) : Option UInt16 :=
  match stripFront "[" raw with
  | some rest =>
    if rest.contains ']' then portBehind ((rest.dropWhile (· ≠ ']')).drop 1)
    else none
  | none =>
    if raw.count ':' = 1 then (rsplitOnceColon raw).bind fun split => parseU16 split.2
    else none

def urlPort (raw : List Char) : Option UInt16 :=
  ((stripFront "https://" raw).or (stripFront "http://" raw)).bind fun rest => hostPort
    (rest.takeWhile fun c => c ≠ '/' && c ≠ '?' && c ≠ '#')

def DnsEndpoint.explicitPort (ep : DnsEndpoint) : Option UInt16 :=
  match ep.transport with
  | .plain | .dot => hostPort ep.address
  | .doh => urlPort ep.address

/-
  The text that `query_endpoints` and `dot_query` connect to, and the URL that `doh_query` posts
  to.
-/
def DnsEndpoint.dialled (ep : DnsEndpoint) : List Char :=
  match ep.transport with
  | .plain => ep.address ++ ":53".toList
  | .dot => ep.address ++ ':' :: (toString (ep.explicitPort.getD 853).toNat).toList
  | .doh =>
    if "https://".toList.isPrefixOf ep.address then ep.address
    else "https://".toList ++ ep.address ++ "/dns-query".toList

-- Entries As They Are Written

inductive Form where
  | plain
  | tls
  | dot
  | https
  | doh
deriving DecidableEq

def Form.scheme : Form → String
| .plain => ""
| .tls => "tls://"
| .dot => "dot:"
| .https => "https://"
| .doh => "doh:"

def portText : Option (List Char) → List Char
| none => []
| some digits => ':' :: digits

def written (host : List Char) (bracketed : Bool) (port : Option (List Char)) : List Char :=
  (if bracketed then '[' :: (host ++ [']']) else host) ++ portText port

structure Entry where
  form : Form
  host : List Char
  bracketed : Bool
  port : Option (List Char)
  -- the path and query of a URL
  tail : List Char

namespace Entry

def text (e : Entry) : List Char :=
  e.form.scheme.toList ++ (written e.host e.bracketed e.port ++ e.tail)

def isV6 (e : Entry) : Bool := e.host.contains ':'

def wanted (e : Entry) (default : Nat) : Nat := (e.port.map decimal).getD default

structure Documented (e : Entry) : Prop where
  host_ne_nil : e.host ≠ []
  host : ∀ c ∈ e.host, isVisible c = true ∧ c ∉ ['/', '[', ']']
  colons : ':' ∈ e.host → 2 ≤ e.host.count ':'
  -- behind a bare IPv6 address there is no port
  bare : ':' ∈ e.host → e.bracketed = false → e.port = none
  port : ∀ digits ∈ e.port, digits ≠ [] ∧ decimal digits < 65536 ∧ ∀ c ∈ digits, c.isDigit = true
  tail : ∀ c ∈ e.tail, isVisible c = true
  tail_eq_nil : e.form ≠ .https → e.tail = []
  -- a plain entry does not start like one of the others
  plain : e.form = .plain → ∀ front ∈ ["https://", "doh://", "tls://", "dot://", "doh:", "dot:"],
    stripFront front (e.text.map Char.toLower) = none

def hostText (e : Entry) : List Char := written e.host e.isV6 none

def AtPort (e : Entry) (default : Nat) (digits : List Char) : Prop :=
  (∀ c ∈ digits, c.isDigit = true) ∧ decimal digits = e.wanted default

def AtSocket (e : Entry) (default : Nat) (dialled : List Char) : Prop :=
  ∃ host digits, dialled = host ++ ':' :: digits ∧
    host.map Char.toLower = e.hostText.map Char.toLower ∧ e.AtPort default digits

def AtUrl (e : Entry) (path dialled : List Char) : Prop :=
  ∃ host port, dialled = "https://".toList ++ (host ++ port ++ path) ∧
    host.map Char.toLower = e.hostText.map Char.toLower ∧ (port = [] ∧ e.wanted 443 = 443 ∨
      ∃ digits, port = ':' :: digits ∧ e.AtPort 443 digits)

def AsWritten (e : Entry) (dialled : List Char) : Prop :=
  match e.form with
  | .plain => e.AtSocket 53 dialled
  | .tls | .dot => e.AtSocket 853 dialled
  | .https => e.AtUrl e.tail dialled
  | .doh => e.AtUrl "/dns-query".toList dialled

def Unharmed (e : Entry) : Prop :=
  match e.form with
  | .plain => e.isV6 = false ∧ e.wanted 53 = 53
  | .tls | .dot => e.isV6 = false ∧ e.wanted 853 = 853
  | .https => e.bracketed = e.isV6 ∧ e.tail.map Char.toLower = e.tail
  | .doh => e.isV6 = false ∧ e.wanted 443 = 443

end Entry

-- Parsing What Was Written

variable {e : Entry} {ep : DnsEndpoint}

attribute [local simp] stripFront List.isPrefixOf?

attribute [local simp] portText

lemma stripFront_open {host : List Char} (hHost : host ≠ []) (hOpen : '[' ∉ host)
  (rest : List Char) : stripFront "[" (host ++ rest) = none := by
  cases host with
  | nil => exact absurd rfl hHost
  | cons c =>
    have hHead : ('[' == c) = false := by
      rw [beq_eq_false_iff_ne]
      rintro rfl
      exact hOpen mem_cons_self
    simp [hHead]

lemma splitHostPort_written
  {host : List Char} {bracketed : Bool} {port : Option (List Char)} (hHost : host ≠ [])
  (hOpen : '[' ∉ host) (hClose : ']' ∉ host) (hColons : ':' ∈ host → 2 ≤ host.count ':')
  (hBare : ':' ∈ host → bracketed = false → port = none) (hPort : ∀ digits ∈ port, ':' ∉ digits)
  (default : UInt16) : (splitHostPort (written host bracketed port) default).1 = host := by
  cases bracketed with
  | true =>
    have hStrip : stripFront "[" (written host true port) =
      some (host ++ ']' :: portText port) := by simp [written]
    rw [splitHostPort, hStrip]
    simp only [contains_eq_mem, mem_append, mem_cons_self, or_true, decide_true, if_true]
    exact takeWhile_append_cons hClose
  | false =>
    have hStrip : stripFront "[" (written host false port) = none := stripFront_open hHost hOpen _
    rw [splitHostPort, hStrip, splitUnbracketed]
    simp only
    by_cases hMem : ':' ∈ host
    · rw [hBare hMem rfl, if_neg]
      · simp [written]
      · have hTwo := hColons hMem
        simp only [written, portText, append_nil, Bool.false_eq_true, if_false]
        omega
    · have hNone : host.count ':' = 0 := count_eq_zero.mpr hMem
      cases port with
      | none =>
        rw [if_neg (by simp [written, hNone])]
        simp [written]
      | some digits =>
        have hDigits := hPort digits rfl
        rw [if_pos (by simp [written, hNone, count_eq_zero.mpr hDigits])]
        simp [written, rsplitOnceColon_append_cons hDigits]

lemma mem_map_toLower {x : Char} {text : List Char}
  (hOther : x.toNat < 97 ∨ 122 < x.toNat) (hMem : x ∈ text.map toLower) : x ∈ text := by
  rcases mem_map.mp hMem with ⟨c, hIn, hLower⟩
  exact eq_of_toLower_eq hOther hLower ▸ hIn

namespace Entry.Documented

variable (hEntry : e.Documented)
include hEntry

lemma colon_notMem {digits : List Char} (hMem : digits ∈ e.port) : ':' ∉ digits := fun hColon =>
  absurd ((hEntry.port digits hMem).2.2 ':' hColon) (by decide)

lemma lower_port : e.port.map (List.map toLower) = e.port := by
  cases hPort : e.port with
  | none => rfl
  | some digits =>
    have hDigits := (hEntry.port digits hPort).2.2
    rw [Option.map_some, map_congr_left fun c hMem => toLower_of_isDigit (hDigits c hMem), map_id']

lemma lower_written : (written e.host e.bracketed e.port).map toLower =
  written (e.host.map toLower) e.bracketed e.port := by
  conv => rhs; rw [← hEntry.lower_port]
  cases e.port <;> cases e.bracketed <;> simp [written]

lemma lower_host : '[' ∉ e.host.map toLower ∧ ']' ∉ e.host.map toLower ∧
  (e.host.map toLower).count ':' = e.host.count ':' := by
  refine ⟨fun hMem => ?_, fun hMem => ?_, ?_⟩
  · have hIn := mem_map_toLower (.inl (by decide)) hMem
    simpa using (hEntry.host _ hIn).2
  · have hIn := mem_map_toLower (.inl (by decide)) hMem
    simpa using (hEntry.host _ hIn).2
  · rw [count_eq_countP, countP_map, count_eq_countP]
    refine countP_congr fun c _ => ?_
    simp only [Function.comp_apply, beq_iff_eq]
    constructor
    · exact eq_of_toLower_eq (.inl (by decide))
    · rintro rfl
      rfl

lemma host_of_lower (default : UInt16) :
  (splitHostPort ((written e.host e.bracketed e.port).map toLower) default).1 =
  e.host.map toLower := by
  have hColon : ':' ∈ e.host.map toLower → ':' ∈ e.host := mem_map_toLower (.inl (by decide))
  rw [hEntry.lower_written]
  refine splitHostPort_written (by simpa using hEntry.host_ne_nil)
    hEntry.lower_host.1 hEntry.lower_host.2.1 (fun hMem => ?_)
    (fun hMem => hEntry.bare (hColon hMem))
    (fun _ => hEntry.colon_notMem) default
  rw [hEntry.lower_host.2.2]
  exact hEntry.colons (hColon hMem)

lemma hostPort_host : hostPort (e.host.map toLower) = none := by
  have hCount : (e.host.map toLower).count ':' ≠ 1 := by
    rw [hEntry.lower_host.2.2]
    by_cases hMem : ':' ∈ e.host
    · have hTwo := hEntry.colons hMem
      omega
    · rw [count_eq_zero.mpr hMem]
      decide
  have hStrip : stripFront "[" (e.host.map toLower) = none := by
    have hOpen := stripFront_open (by simpa using hEntry.host_ne_nil) hEntry.lower_host.1 []
    rwa [append_nil] at hOpen
  rw [hostPort, hStrip]
  exact if_neg hCount

lemma host_of_text (default : UInt16) :
  (splitHostPort (written e.host e.bracketed e.port) default).1 = e.host :=
  splitHostPort_written hEntry.host_ne_nil (fun hMem => by simpa using (hEntry.host _ hMem).2)
    (fun hMem => by simpa using (hEntry.host _ hMem).2)
    hEntry.colons hEntry.bare (fun _ => hEntry.colon_notMem) default

lemma trim_text : trim e.text = e.text := by
  apply trim_of_isVisible
  have hHosts := fun c hIn => (hEntry.host c hIn).1
  simp only [Entry.text, written, forall_mem_append]
  refine ⟨?_, ⟨?_, ?_⟩, hEntry.tail⟩
  · have hAll : e.form.scheme.toList.all isVisible := by cases e.form <;> decide
    exact all_eq_true.mp hAll
  · split
    · exact forall_mem_cons.mpr
        ⟨rfl, forall_mem_append.mpr ⟨hHosts, forall_mem_singleton.mpr rfl⟩⟩
    · exact hHosts
  · cases hSome : e.port with
    | none => exact nofun
    | some digits =>
      refine forall_mem_cons.mpr ⟨rfl, fun c hIn => ?_⟩
      exact isVisible_of_isDigit ((hEntry.port digits hSome).2.2 c hIn)

lemma head_written :
  ∃ c rest, (written e.host e.bracketed e.port).map toLower = c :: rest ∧ c ≠ '/' := by
  rw [hEntry.lower_written, written]
  split
  · exact ⟨_, _, rfl, by decide⟩
  · cases hHost : e.host with
    | nil => exact absurd hHost hEntry.host_ne_nil
    | cons c =>
      refine ⟨c.toLower, _, rfl, fun hSlash => ?_⟩
      have hIn : '/' ∈ e.host := mem_map_toLower (.inl (by decide)) (by simp [hHost, hSlash])
      simpa using (hEntry.host _ hIn).2

end Entry.Documented

lemma dialled_url (rest : List Char) (name : Option (List Char)) :
  dialled ⟨"https://".toList ++ rest, .doh, name⟩ = "https://".toList ++ rest := by
  rw [dialled]
  exact if_pos ( isPrefixOf_iff_prefix.mpr (prefix_append _ _))

lemma dialled_ofDot (hEntry : e.Documented) :
  (ofDot ((written e.host e.bracketed e.port).map
    toLower)).dialled = e.host.map toLower ++ ":853".toList := by
  simp only [ofDot, dialled,
    explicitPort, hEntry.host_of_lower, hEntry.hostPort_host]
  rfl

/- The destination of an entry, form by form. -/
lemma dialled_of_parse (hEntry : e.Documented) (hParse : parse e.text = some ep) :
  ep.dialled = match e.form with
    | .plain => e.host ++ ":53".toList
    | .tls | .dot => e.host.map toLower ++ ":853".toList
    | .https => "https://".toList ++ (written e.host e.bracketed e.port ++ e.tail).map toLower
    | .doh => "https://".toList ++ (e.host.map toLower ++ "/dns-query".toList) := by
  have hSome : e.text.isEmpty = false := by
    refine Bool.eq_false_iff.mpr fun hNil => ?_
    rw [parse, hEntry.trim_text, hNil] at hParse
    cases hParse
  rw [parse, hEntry.trim_text, hSome] at hParse
  simp only [Bool.false_eq_true, if_false] at hParse
  rcases hEntry.head_written with ⟨c, rest, hHead, hSlash⟩
  have hSlash' : ('/' == c) = false := by
    rw [beq_eq_false_iff_ne]
    exact Ne.symm hSlash
  cases hForm : e.form with
  | plain =>
    have hNone := hEntry.plain hForm
    have hTail := hEntry.tail_eq_nil (by rw [hForm]; decide)
    have hText : e.text = written e.host e.bracketed e.port := by
      rw [Entry.text, hForm, hTail, append_nil]
      rfl
    simp only [forall_mem_cons] at hNone
    rcases hNone with ⟨h₁, h₂, h₃, h₄, h₅, h₆, -⟩
    simp only [h₁, h₂, h₃, h₄, h₅, h₆, Option.or_none] at hParse
    simp only [hText, hEntry.host_of_text] at hParse
    split at hParse
    next => cases hParse
    next =>
      cases hParse
      rfl
  | tls =>
    have hTail := hEntry.tail_eq_nil (by rw [hForm]; decide)
    have hText : e.text.map toLower = "tls://".toList ++
      (written e.host e.bracketed e.port).map toLower := by
      rw [Entry.text, hForm, hTail, append_nil, map_append]
      rfl
    simp only [hText, stripFront_append, Option.some_or] at hParse
    simp at hParse
    cases hParse
    exact dialled_ofDot hEntry
  | dot =>
    have hTail := hEntry.tail_eq_nil (by rw [hForm]; decide)
    have hText : e.text.map toLower = "dot:".toList ++ c :: rest := by
      rw [Entry.text, hForm, hTail, append_nil, map_append, hHead]
      rfl
    have hOthers : ∀ front ∈ ["https://", "doh://", "tls://", "dot://", "doh:"],
      stripFront front ("dot:".toList ++ c :: rest) = none := by
      simp [hSlash']
    simp only [forall_mem_cons] at hOthers
    rcases hOthers with ⟨h₁, h₂, h₃, h₄, h₅, -⟩
    simp only [hText, h₁, h₂, h₃, h₄, h₅, Option.or_none, stripFront_append] at hParse
    cases hParse
    rw [← hHead]
    exact dialled_ofDot hEntry
  | https =>
    have hText : e.text.map toLower = "https://".toList ++
      (written e.host e.bracketed e.port ++ e.tail).map
        toLower := by
      rw [Entry.text, hForm, map_append]
      rfl
    simp only [hText, stripFront_append, Option.some_or] at hParse
    cases hParse
    exact dialled_url _ _
  | doh =>
    have hTail := hEntry.tail_eq_nil (by rw [hForm]; decide)
    have hText : e.text.map toLower = "doh:".toList ++ c :: rest := by
      rw [Entry.text, hForm, hTail, append_nil, map_append, hHead]
      rfl
    have hOthers : ∀ front ∈ ["https://", "doh://", "tls://", "dot://"],
      stripFront front ("doh:".toList ++ c :: rest) = none := by
      simp [hSlash']
    simp only [forall_mem_cons] at hOthers
    rcases hOthers with ⟨h₁, h₂, h₃, h₄, -⟩
    simp only [hText, h₁, h₂, h₃, h₄, Option.or_none, stripFront_append] at hParse
    cases hParse
    rw [← hHead, hEntry.host_of_lower, append_assoc]
    exact dialled_url _ _

-- What Is Dialled As It Was Written

namespace Entry

lemma hostText_of_v4 (hName : e.isV6 = false) : e.hostText = e.host := by
  simp [hostText, written, hName]

lemma v4_of_sameHost
  {host : List Char} (hSame : host.map toLower = e.hostText.map toLower)
  (hLength : host.length ≤ e.host.length) : e.isV6 = false ∧ host.length = e.host.length := by
  have hLengths := congrArg List.length hSame
  rw [length_map, length_map, hostText] at hLengths
  cases hName : e.isV6 with
  | true =>
    simp [written, hName] at hLengths
    omega
  | false =>
    simp [written, hName] at hLengths
    exact ⟨rfl, hLengths⟩

lemma atSocket_iff {host digits : List Char}
  {default : Nat} (hHost : host.map toLower = e.host.map toLower)
  (hDigits : ∀ c ∈ digits, c.isDigit) (hDefault : decimal digits = default) :
  e.AtSocket default (host ++ ':' :: digits) ↔ e.isV6 = false ∧ e.wanted default = default := by
  have hColon : ∀ {text : List Char}, (∀ c ∈ text, c.isDigit) → ':' ∉ text :=
    fun hAll hMem => absurd (hAll ':' hMem) (by decide)
  constructor
  · rintro ⟨other, port, hSplit, hSame, hPort, hWanted⟩
    have hParts := congrArg rsplitOnceColon hSplit
    rw [rsplitOnceColon_append_cons (hColon hDigits),
      rsplitOnceColon_append_cons (hColon hPort)] at hParts
    cases hParts
    have hLength := congrArg List.length hHost
    rw [length_map, length_map] at hLength
    exact ⟨(v4_of_sameHost hSame (Nat.le_of_eq hLength)).1, hWanted.symm.trans hDefault⟩
  · rintro ⟨hName, hWanted⟩
    refine ⟨host, digits, rfl, ?_, hDigits, hDefault.trans hWanted.symm⟩
    rw [hostText_of_v4 hName, hHost]

lemma atUrl_doh_iff {host path : List Char}
  (hHost : host.map toLower = e.host.map toLower) :
  e.AtUrl path ("https://".toList ++ (host ++ path)) ↔ e.isV6 = false ∧ e.wanted 443 = 443 := by
  have hLength := congrArg List.length hHost
  rw [length_map, length_map] at hLength
  constructor
  · rintro ⟨other, port, hSplit, hSame, hPort⟩
    have hParts := append_cancel_right (append_cancel_left hSplit)
    have hSum := congrArg List.length hParts
    rw [length_append] at hSum
    rcases v4_of_sameHost hSame (by omega) with ⟨hName, _⟩
    have hNone : port = [] := length_eq_zero_iff.mp (by omega)
    rcases hPort with ⟨-, hWanted⟩ | ⟨digits, hSome, -⟩
    · exact ⟨hName, hWanted⟩
    · rw [hNone] at hSome
      cases hSome
  · rintro ⟨hName, hWanted⟩
    refine ⟨host, [], by rw [append_nil], ?_, .inl ⟨rfl, hWanted⟩⟩
    rw [hostText_of_v4 hName, hHost]

lemma atUrl_https_iff (hEntry : e.Documented) : e.AtUrl e.tail ("https://".toList ++
  (written e.host e.bracketed e.port ++ e.tail).map toLower) ↔
  e.bracketed = e.isV6 ∧ e.tail.map toLower = e.tail := by
  rw [map_append]
  constructor
  · rintro ⟨host, port, hSplit, hSame, -⟩
    rcases append_inj' (append_cancel_left hSplit) (length_map _) with ⟨hParts, hTail⟩
    refine ⟨?_, hTail⟩
    have hSum := congrArg List.length hParts
    have hLength := congrArg List.length hSame
    simp only [length_map, length_append] at hSum hLength
    cases hName : e.isV6 with
    | true =>
      -- without its brackets, the host is too short
      by_contra hBare
      have hOff : e.bracketed = false := by simpa using hBare
      have hNone := hEntry.bare (by simpa [isV6] using hName) hOff
      simp [written, hostText, hName, hNone, hOff] at hSum hLength
      omega
    | false =>
      -- a bracket would be in the host
      by_contra hBracket
      rw [hostText_of_v4 hName] at hSame hLength
      have hOn : e.bracketed := by simpa using hBracket
      rw [hEntry.lower_written, written, hOn] at hParts
      cases host with
      | nil => exact hEntry.host_ne_nil (length_eq_zero_iff.mp hLength.symm)
      | cons c =>
        have hHead : '[' = c := (List.cons.inj hParts).1
        refine hEntry.lower_host.1 ?_
        rw [← hSame, ← hHead]
        exact mem_cons_self
  · rintro ⟨hBrackets, hTail⟩
    refine ⟨e.hostText.map Char.toLower, portText e.port, ?_, ?_, ?_⟩
    · rw [hTail, hostText, ← hBrackets, hEntry.lower_written]
      cases hOn : e.bracketed <;> simp [written]
    · rw [map_map]
      exact map_congr_left fun c _ => toLower_toLower c
    · cases hPort : e.port with
      | none => exact .inl ⟨rfl, by simp [wanted, hPort]⟩
      | some digits =>
        refine .inr ⟨digits, rfl, (hEntry.port digits hPort).2.2, ?_⟩
        simp [wanted, hPort]

end Entry

/-
  A documented entry is dialled as it was written exactly if the port is the default one and the
  host is no IPv6 address, or it is a URL with the right brackets and no capital letter behind the
  host.
-/
theorem dialled_as_written_iff
    (hEntry : e.Documented)
    (hParse : DnsEndpoint.parse e.text = some ep) :
    e.AsWritten ep.dialled ↔ e.Unharmed := by
  have hLower : (e.host.map toLower).map toLower = e.host.map toLower := by
    rw [map_map]
    exact map_congr_left fun c _ => toLower_toLower c
  rw [dialled_of_parse hEntry hParse, Entry.AsWritten, Entry.Unharmed]
  cases e.form with
  | plain => exact Entry.atSocket_iff rfl (all_eq_true.mp (by decide)) rfl
  | tls | dot => exact Entry.atSocket_iff hLower (all_eq_true.mp (by decide)) rfl
  | https => exact Entry.atUrl_https_iff hEntry
  | doh => exact Entry.atUrl_doh_iff hLower

def quad9 (port : String) : Entry where
  form := .plain
  host := "9.9.9.9".toList
  bracketed := false
  port := some port.toList
  tail := []

lemma documented_quad9 {port : String} (hPort : port ∈ ["53", "5353"]) :
  (quad9 port).Documented := by
  have hCases : port = "53" ∨ port = "5353" := by simpa using hPort
  rcases hCases with rfl | rfl <;>
    exact
      { host_ne_nil := by decide
        host := fun c hMem => by
          simpa using all_eq_true.mp (show (quad9 "").host.all (fun c =>
            isVisible c && decide (c ∉ ['/', '[', ']'])) by decide) c hMem
        colons := by decide
        bare := by decide
        port := by
          intro digits hMem
          cases hMem
          exact ⟨by decide, by decide, all_eq_true.mp (by decide)⟩
        tail := nofun
        tail_eq_nil := fun _ => rfl
        plain := fun _ => by decide }

theorem port_53_is_dialled :
  ∃ ep, DnsEndpoint.parse (quad9 "53").text = some ep ∧ (quad9 "53").AsWritten ep.dialled := by
  cases hParse : parse (quad9 "53").text with
  | none => exact absurd hParse (by decide +kernel)
  | some ep =>
    refine ⟨ep, rfl, (dialled_as_written_iff (documented_quad9 (by simp)) hParse).mpr ?_⟩
    exact ⟨by decide, by decide⟩

/- Port 5353 was written, and port 53 is dialled. -/
theorem explicit_port_is_dropped : ¬ ∀ (e : Entry) (ep : DnsEndpoint), e.Documented →
  DnsEndpoint.parse e.text = some ep → e.AsWritten ep.dialled := by
  intro hAll
  have hParse : parse (quad9 "5353").text =
    some ⟨"9.9.9.9".toList, .plain, none⟩ := by decide +kernel
  rcases hAll _ _ (documented_quad9 (by simp)) hParse with
    ⟨host, digits, hSplit, -, hDigits, hWanted⟩
  have hColon : ':' ∉ digits := fun hMem => absurd (hDigits ':' hMem) (by decide)
  have hParts := congrArg rsplitOnceColon hSplit
  rw [rsplitOnceColon_append_cons hColon] at hParts
  have hFound : rsplitOnceColon (dialled ⟨"9.9.9.9".toList, .plain, none⟩) =
    some ("9.9.9.9".toList, "53".toList) := by decide +kernel
  rw [hFound] at hParts
  cases hParts
  exact absurd hWanted (by decide)

end Kourosh.SmartDns
