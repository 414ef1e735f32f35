import Kourosh.Socks.Association
import Kourosh.Socks.Http

/-
  One destination in several spellings.

  A name can be written in any case of letters and with a dot at its end, an address as itself, as
  a mapped address or as a text.

  Correctness is proven by:
    * `decidedAlike_iff`
-/

-- Rules Without Patterns

namespace Kourosh

open List

namespace Routing

lemma sameIgnoringCase_iff {a b : List Char} : sameIgnoringCase a b ↔
  a.map Char.toLower = b.map Char.toLower := beq_iff_eq

lemma sameIgnoringCase_congr {a b : List Char} (hAlike : sameIgnoringCase a b)
  (other : List Char) : sameIgnoringCase a other = sameIgnoringCase b other := by
  unfold sameIgnoringCase
  rw [sameIgnoringCase_iff.mp hAlike]

def Matcher.isRegex : Matcher → Bool
| .domainRegex _ _ => true
| _ => false

def RuleSet.NoRegex (rules : RuleSet) : Prop :=
  ∀ rule ∈ rules.block ++ rules.direct, rule.isRegex = false

section LetterCase

variable {toLowercase : List Char → List Char} {a b : List Char}
variable (hAlike : sameIgnoringCase a b = true)
variable (hLower : toLowercase a = toLowercase b)
include hAlike hLower

lemma Matcher.matchesHost_of_sameIgnoringCase {rule : Matcher} (hRegex : rule.isRegex = false)
  (port : UInt16) : rule.matchesHost toLowercase (.domain a) port =
  rule.matchesHost toLowercase (.domain b) port := by
  cases rule with
  | domainSuffix | domainKeyword => simp only [matchesHost, hLower]
  | domainFull full => exact sameIgnoringCase_congr hAlike full
  | domainRegex => cases hRegex
  | net | ports => rfl
  | priv => exact sameIgnoringCase_congr hAlike localhost

lemma any_matchesHost_of_sameIgnoringCase
  {list : List Matcher} (hList : ∀ rule ∈ list, rule.isRegex = false)
  (port : UInt16) : list.any (·.matchesHost toLowercase (.domain a) port) =
  list.any (·.matchesHost toLowercase (.domain b) port) := by
  induction list with
  | nil => rfl
  | cons rule list ih =>
    have hRest : ∀ rule ∈ list, rule.isRegex = false :=
      fun other hMem => hList other (mem_cons_of_mem rule hMem)
    rw [any_cons, any_cons, ih hRest,
      Matcher.matchesHost_of_sameIgnoringCase hAlike hLower (hList rule mem_cons_self) port]

lemma RuleSet.decide_eq_of_sameIgnoringCase
  {rules : RuleSet} (hRules : rules.NoRegex) (port : UInt16) :
  rules.decide toLowercase (.domain a) port = rules.decide toLowercase (.domain b) port := by
  have hBlock : ∀ rule ∈ rules.block, rule.isRegex = false :=
    fun rule hMem => hRules rule (mem_append_left _ hMem)
  have hDirect : ∀ rule ∈ rules.direct, rule.isRegex = false :=
    fun rule hMem => hRules rule (mem_append_right _ hMem)
  unfold RuleSet.decide
  rw [any_matchesHost_of_sameIgnoringCase hAlike hLower hBlock,
    any_matchesHost_of_sameIgnoringCase hAlike hLower hDirect]

end LetterCase

-- Rules That Tell Apart

lemma append_inj_of_bits {n m : Nat} {high high' : BitVec n}
  {low low' : BitVec m} (hEq : high ++ low = high' ++ low') : high = high' ∧ low = low' := by
  constructor
  · have hHigh := congrArg (BitVec.extractLsb' m n) hEq
    simpa [BitVec.extractLsb'_append_eq_left] using hHigh
  · have hLow := congrArg (BitVec.setWidth m) hEq
    simpa [BitVec.setWidth_append] using hLow

lemma eq_of_toBits {ip other : Ipv4Addr} (hEq : ip.toBits = other.toBits) : ip = other := by
  unfold Ipv4Addr.toBits at hEq
  rcases append_inj_of_bits hEq with ⟨hEq, hD⟩
  rcases append_inj_of_bits hEq with ⟨hEq, hC⟩
  rcases append_inj_of_bits hEq with ⟨hA, hB⟩
  cases ip
  cases other
  rw [UInt8.toBitVec_inj] at hA hB hC hD
  simp only [Ipv4Addr.mk.injEq]
  exact ⟨hA, hB, hC, hD⟩

lemma sameNetwork_width {width : Nat} {a b : BitVec width} :
  sameNetwork width a b ↔ a = b := by simp [sameNetwork]

lemma IpNet.contains_ofAddr {ip other : IpAddr} :
  (IpNet.ofAddr ip).contains other ↔ ip = other := by
  cases ip with
  | v4 =>
    cases other with
    | v4 =>
      rw [IpAddr.v4.injEq]
      refine sameNetwork_width.trans ⟨eq_of_toBits, ?_⟩
      intro hEq
      rw [hEq]
    | v6 => simp [ofAddr, contains]
  | v6 ip =>
    cases other with
    | v4 => simp [ofAddr, contains]
    | v6 other =>
      cases ip
      cases other
      rw [IpAddr.v6.injEq, Ipv6Addr.mk.injEq]
      exact sameNetwork_width

def RuleSet.blocking (rule : Matcher) : RuleSet where
  block := [rule]
  direct := []

lemma RuleSet.decide_blocking (toLowercase : List Char → List Char) (rule : Matcher)
  (host : Host) (port : UInt16) : (RuleSet.blocking rule).decide toLowercase host port = .block ↔
  rule.matchesHost toLowercase host port := by
  rw [RuleSet.decide_eq_block_iff]
  simp [RuleSet.blocking]

end Routing

-- Spellings

namespace Socks

open Routing

inductive Arrival where
  | socks (target : Target)
  | http (authority : List Char)

inductive Destination where
  | address (ip : IpAddr)
  | name (name : List Char)
deriving DecidableEq

def withoutDot (name : List Char) : List Char :=
  if name.getLast? = some '.' then name.dropLast else name

namespace Arrival

def ofText (lib : Libraries) (text : List Char) : Destination :=
  match lib.parseIp text with
  | some ip => .address (normalizeIp ip)
  | none => .name (lib.toLowercase (withoutDot text))

def destination (lib : Libraries) : Arrival → Destination
| .socks (.ip ip) => .address (normalizeIp ip)
| .socks (.domain name) => ofText lib name
| .http authority => ofText lib authority

def host (lib : Libraries) : Arrival → Host
| .socks target => target.host
| .http authority => (httpTarget lib authority).host

def action (lib : Libraries) (rules : RuleSet) (port : UInt16) : Arrival → Routing.Action
| .socks target => routeNamed lib rules target none port
| .http authority => rules.decide lib.toLowercase (httpTarget lib authority).host port

lemma action_eq (lib : Libraries) (rules : RuleSet) (port : UInt16) (arrival : Arrival) :
  arrival.action lib rules port = rules.decide lib.toLowercase (arrival.host lib) port := by
  cases arrival <;> rfl

end Arrival

def DecidedAlike (lib : Libraries) (a b : Arrival) : Prop :=
  a.destination lib = b.destination lib → ∀ rules :
    RuleSet, rules.NoRegex → ∀ port : UInt16, a.action lib rules port = b.action lib rules port

def Alike : Host → Host → Prop
| .ip a, .ip b => a = b
| .domain a, .domain b => sameIgnoringCase a b = true
| _, _ => False

-- Decisions

def onlyRule : Host → Matcher
| .ip ip => .net (.ofAddr ip)
| .domain name => .domainFull name

lemma noRegex_onlyRule (host : Host) : (RuleSet.blocking (onlyRule host)).NoRegex := by
  intro rule hMem
  have hRule : rule = onlyRule host := by simpa [RuleSet.blocking] using hMem
  rw [hRule]
  cases host <;> rfl

lemma matchesHost_onlyRule
  (toLowercase : List Char → List Char) (host other : Host) (port : UInt16) :
  (onlyRule host).matchesHost toLowercase other port ↔ Alike other host := by
  cases host with
  | ip ip =>
    cases other with
    | ip => exact IpNet.contains_ofAddr.trans eq_comm
    | domain => simp [onlyRule, Matcher.matchesHost, Alike]
  | domain =>
    cases other with
    | ip => simp [onlyRule, Matcher.matchesHost, Alike]
    | domain => rfl

lemma alike_refl (host : Host) : Alike host host := by
  cases host with
  | ip => rfl
  | domain => exact sameIgnoringCase_iff.mpr rfl

def FoldsAscii (lib : Libraries) : Prop := ∀ a b : List Char,
  sameIgnoringCase a b = true → lib.toLowercase a = lib.toLowercase b

lemma decide_eq_of_alike {lib : Libraries} (hLower : FoldsAscii lib)
  {a b : Host} (hAlike : Alike a b) {rules : RuleSet} (hRules : rules.NoRegex) (port : UInt16) :
  rules.decide lib.toLowercase a port = rules.decide lib.toLowercase b port := by
  cases a with
  | ip ip =>
    cases b with
    | ip other => rw [show ip = other from hAlike]
    | domain => exact hAlike.elim
  | domain name =>
    cases b with
    | ip => exact hAlike.elim
    | domain other =>
      exact RuleSet.decide_eq_of_sameIgnoringCase hAlike (hLower name other hAlike) hRules port

/-
  Rules that decide alike on two spellings of one destination do so because they get the same
  address, or names that are the same up to ASCII letters.
-/
theorem decidedAlike_iff
    {lib : Libraries}
    (hLower : FoldsAscii lib)
    (a b : Arrival) :
    DecidedAlike lib a b ↔
      (a.destination lib = b.destination lib → Alike (a.host lib) (b.host lib)) := by
  constructor
  · intro hDecided hSame
    have hAction := hDecided hSame (.blocking (onlyRule (b.host lib))) (noRegex_onlyRule _) 0
    rw [a.action_eq, b.action_eq] at hAction
    have hBlocked : (RuleSet.blocking (onlyRule (b.host lib))).decide lib.toLowercase
      (b.host lib) 0 = .block := by
      rw [RuleSet.decide_blocking, matchesHost_onlyRule]
      exact alike_refl _
    rw [← hAction, RuleSet.decide_blocking, matchesHost_onlyRule] at hBlocked
    exact hBlocked
  · intro hAlike hSame rules hRules port
    rw [a.action_eq, b.action_eq]
    exact decide_eq_of_alike hLower (hAlike hSame) hRules port

lemma foldsAscii_asciiLibraries : FoldsAscii asciiLibraries :=
  fun _ _ hAlike => sameIgnoringCase_iff.mp hAlike

theorem decidedAlike_iff_letters : FoldsAscii asciiLibraries ∧ Arrival.destination asciiLibraries
      (.socks (.domain "Example.COM".toList)) =
    Arrival.destination asciiLibraries (.http "example.com".toList) ∧
  DecidedAlike asciiLibraries (.socks (.domain "Example.COM".toList))
    (.http "example.com".toList) := by
  refine ⟨foldsAscii_asciiLibraries, by decide +kernel, ?_⟩
  apply (decidedAlike_iff foldsAscii_asciiLibraries _ _).mpr
  intro _
  show sameIgnoringCase "Example.COM".toList "example.com".toList
  decide +kernel

def ipv4Libraries : Libraries :=
  { asciiLibraries with parseIp := fun text => (parseIpv4 text).map .v4 }

def mappedTen : IpAddr := .v6 ⟨0xFFFF0A000001⟩

/- A dot at the end, a mapped address and the text of an address each get past a rule. -/
theorem spelling_decides : ¬ DecidedAlike ipv4Libraries (.socks (.domain "example.com".toList))
  (.socks (.domain "example.com.".toList)) ∧ ¬ DecidedAlike ipv4Libraries
    (.socks (.ip (.v4 ⟨10, 0, 0, 1⟩))) (.socks (.ip mappedTen)) ∧
  ¬ DecidedAlike ipv4Libraries (.http "10.0.0.1".toList) (.socks (.domain "10.0.0.1".toList)) := by
  have hFull : (RuleSet.blocking (.domainFull "example.com".toList)).NoRegex := by
    simp [RuleSet.NoRegex, RuleSet.blocking, Matcher.isRegex]
  have hPrivate : (RuleSet.blocking .priv).NoRegex := by
    simp [RuleSet.NoRegex, RuleSet.blocking, Matcher.isRegex]
  refine ⟨?_, ?_, ?_⟩
  · intro hAlike
    have hAction := hAlike (by decide +kernel) _ hFull 443
    revert hAction
    decide +kernel
  all_goals
    intro hAlike
    have hAction := hAlike (by decide +kernel) _ hPrivate 443
    revert hAction
    decide +kernel

end Socks

end Kourosh
