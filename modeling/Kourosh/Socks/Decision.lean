import Kourosh.Socks.Connect

/-
  The route of a request by address whose client announces a name.

  The name takes the place of the address: the rules are asked for the name alone.

  Correctness is proven by:
    * `notWeakened_iff`
-/

-- The Route Of A Request

namespace Kourosh.Socks

open Routing RuleSet
open Option

def sniffedName (rules : RuleSet) (env : Environment) (client : Client) : Option (List Char) :=
  if rules.hasDomainRules then announced env client else none

variable {rules : RuleSet} {env : Environment} {client : Client} {ip : IpAddr}

lemma hostname_of_sniffedName {name : List Char}
  (hName : sniffedName rules env client = some name) : ∃ head, hostname head = some name := by
  unfold sniffedName announced at hName
  split at hName
  · rcases bind_eq_some_iff.mp hName with ⟨read, -, hRead⟩
    split at hRead
    · cases hRead
    · exact ⟨read.1, hRead⟩
  · cases hName

lemma named_of_sniff {sniffed : Sniffed} (hSniff : sniff rules env client (.ip ip) = .ok sniffed) :
  sniffed.named = sniffedName rules env client := by
  unfold sniff at hSniff
  unfold sniffedName
  cases hRules : rules.hasDomainRules with
  | false =>
    rw [hRules] at hSniff
    cases hSniff
    rfl
  | true =>
    simp only [hRules, Target.isIp, Bool.and_self, if_true] at hSniff ⊢
    split at hSniff
    · cases hSniff
    next client₁ hWrite =>
      have hHead :
        (readSniffHead env client₁).map Prod.fst = (readSniffHead env client).map Prod.fst :=
        readSniffHead_of_write hWrite
      split at hSniff
      · cases hSniff
      next head client₂ hRead =>
        cases hSniff
        rw [hRead, map_some] at hHead
        rcases map_eq_some_iff.mp hHead.symm with ⟨read, hFirst, rfl⟩
        rw [announced, hFirst]
        rfl

lemma action_of_handleConnect
  {lib : Libraries} {gateway : Gateway} {port : UInt16} {action : Routing.Action}
  (hAction : (handleConnect lib rules env gateway client (.ip ip) port).action = some action) :
  action = routeNamed lib rules (.ip ip) (sniffedName rules env client) port := by
  unfold handleConnect at hAction
  cases hSniff : sniff rules env client (.ip ip) with
  | error =>
    rw [hSniff] at hAction
    cases hAction
  | ok =>
    rw [hSniff] at hAction
    rw [← named_of_sniff hSniff]
    simp only at hAction
    split at hAction <;>
      exact (some.inj hAction).symm

-- Names And Addresses

/-
  The route blocks what the address alone would block, and goes directly where the address alone
  would, unless a rule blocks the name.
-/
structure NotWeakened (lib : Libraries) (rules : RuleSet) (ip : IpAddr)
  (port : UInt16) (named : Option (List Char)) (action : Routing.Action) : Prop where
  block : rules.decide lib.toLowercase (.ip ip) port = .block → action = .block
  direct : rules.decide lib.toLowercase (.ip ip) port = .direct → (∀ name ∈ named,
    rules.block.any (·.matchesHost lib.toLowercase (.domain name) port) = false) → action = .direct

/-
  What an address rule decides is decided as well by a port rule or by a domain rule for the name.
-/
structure Covered (lib : Libraries) (rules : RuleSet) (ip : IpAddr)
  (port : UInt16) (name : List Char) : Prop where
  block : rules.block.any (·.onAddress ip) = true →
    rules.block.any (·.onPort port) = true ∨ rules.block.any (·.onName lib.toLowercase name) = true
  direct : rules.direct.any (·.onAddress ip) = true →
    rules.block.any (·.onAddress ip) = true ∨ rules.block.any (·.onPort port) = true ∨
    rules.block.any (·.onName lib.toLowercase name) = true ∨ rules.direct.any (·.onPort port) =
    true ∨ rules.direct.any (·.onName lib.toLowercase name) = true

lemma notWeakened_name_iff (lib : Libraries) (rules : RuleSet) (ip : IpAddr)
  (port : UInt16) (name : List Char) (hName : sameIgnoringCase name localhost = false) :
  NotWeakened lib rules ip port (some name) (rules.decide lib.toLowercase (.domain name) port) ↔
  Covered lib rules ip port name := by
  constructor
  · intro hKept
    have hBlock := hKept.block
    have hDirect := hKept.direct
    simp only [decide_eq_block_iff,
      decide_eq_direct_iff, mem_def, some.injEq, forall_eq',
      any_matchesHost_ip, any_matchesHost_domain _ _ hName] at hBlock hDirect
    constructor
    all_goals grind
  · intro hCovered
    have hBlock := hCovered.block
    have hDirect := hCovered.direct
    constructor
    · simp only [decide_eq_block_iff, any_matchesHost_ip,
        any_matchesHost_domain _ _ hName]
      grind
    · simp only [decide_eq_direct_iff, mem_def, some.injEq,
        forall_eq', any_matchesHost_ip, any_matchesHost_domain _ _ hName]
      grind

/-
  A sniffed name does not weaken what the address decides, exactly if every decision of an address
  rule is covered by a port rule or by a rule for the name.
-/
theorem notWeakened_iff
    {lib : Libraries}
    {rules : RuleSet}
    {env : Environment}
    {gateway : Gateway}
    {client : Client}
    {ip : IpAddr}
    {port : UInt16}
    {action : Routing.Action}
    (hAction :
      (handleConnect lib rules env gateway client (.ip ip) port).action = some action) :
    NotWeakened lib rules ip port (sniffedName rules env client) action ↔
      ∀ name ∈ sniffedName rules env client, Covered lib rules ip port name := by
  rw [action_of_handleConnect hAction]
  cases hNamed : sniffedName rules env client with
  | none =>
    refine iff_of_true ⟨fun h => h, fun h _ => h⟩ ?_
    exact nofun
  | some name =>
    rcases hostname_of_sniffedName hNamed with ⟨head, hHead⟩
    simp only [mem_def, some.injEq, forall_eq']
    exact notWeakened_name_iff lib rules ip port name (not_localhost_of_hostname hHead)

local instance neZeroLength : NeZero (32 + 1) := inferInstance

def blockNetwork (lo hi : UInt16) : RuleSet where
  block := [.net (.v4 ⟨192, 0, 2, 0⟩ 24), .ports lo hi]
  direct := [.domainSuffix "example.org".toList]

def announcing (host : String) : Client where
  reads := [⟨ascii "GET / HTTP/1.1\r\nHost:" ++ ascii host ++ ascii "\r\n\r\n", by simp [ascii]⟩]
  received := []
  writes := none

/- The port rule blocks the name as well. -/
theorem notWeakened_iff_portRule : NotWeakened asciiLibraries (blockNetwork 80 80)
  (.v4 ⟨192, 0, 2, 1⟩) 80 (some "example.org".toList) .block := by
  have hAction : (handleConnect asciiLibraries (blockNetwork 80 80)
    openNetwork ⟨none, true⟩ (announcing "example.org")
    (.ip (.v4 ⟨192, 0, 2, 1⟩)) 80).action =
    some .block := by decide +kernel
  have hNamed : sniffedName (blockNetwork 80 80) openNetwork (announcing "example.org") =
    some "example.org".toList := by decide +kernel
  rw [← hNamed]
  apply (notWeakened_iff hAction).mpr
  intro name _
  refine ⟨fun _ => .inl (by decide), fun hDirect => ?_⟩
  exact absurd hDirect (by decide)

/-
  The address is blocked, but the name its client announces is not: the request goes to the proxy.
-/
theorem name_lifts_block : ¬ ∀ (lib : Libraries) (rules : RuleSet) (env : Environment)
  (gateway : Gateway) (client : Client) (ip : IpAddr) (port : UInt16) (action : Routing.Action),
  (handleConnect lib rules env gateway client (.ip ip) port).action = some action →
  NotWeakened lib rules ip port (sniffedName rules env client) action := by
  intro hAll
  have hKept := hAll asciiLibraries (blockNetwork 25 25)
    openNetwork ⟨none, true⟩ (announcing "www.example.com")
    (.v4 ⟨192, 0, 2, 1⟩) 80 .proxy (by decide +kernel)
  exact absurd (hKept.block (by decide +kernel)) (by decide)

end Kourosh.Socks
