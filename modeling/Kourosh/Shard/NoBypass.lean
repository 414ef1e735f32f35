import Kourosh.RemotePolicy.Soundness

/-
  Which way the flows of a Smart Split tunnel leave.

  Correctness is proven by:
    * `smart_split_no_bypass`
-/

-- First Match

namespace Kourosh.Shard

open List

section Table

variable {tables : Tables} {flow : Flow}

variable {front rest : List Rule} {rule : Rule} {outbound : Outbound}

lemma route_append_of_skip (hSkip : ∀ rule ∈ front, rule.applies tables flow = false) :
  route tables (front ++ rest) flow = route tables rest flow := by
  have hNone : front.find? (Rule.applies tables flow) = none := by
    rw [find?_eq_none]
    intro rule hMem
    simp [hSkip rule hMem]
  rw [route, route, find?_append, hNone, Option.none_or]

lemma route_cons_of_applies (hApplies : rule.applies tables flow)
  (rest : List Rule) : route tables (rule :: rest) flow = some rule.outboundTag := by
  simp [route, hApplies]

lemma route_cons_of_skip (hSkip : rule.applies tables flow = false)
  (rest : List Rule) : route tables (rule :: rest) flow = route tables rest flow := by
  simp [route, hSkip]

lemma route_append_of_section (hOutbound : ∀ rule ∈ front, rule.outboundTag = outbound)
  (hApplies : ∃ rule ∈ front, rule.applies tables flow) :
  route tables (front ++ rest) flow = some outbound := by
  cases hFind : front.find? (Rule.applies tables flow) with
  | none =>
    rcases hApplies with ⟨rule, hMem, hRule⟩
    exact absurd hRule (find?_eq_none.mp hFind rule hMem)
  | some rule =>
    have hMem : rule ∈ front := mem_of_find?_eq_some hFind
    simp [route, find?_append, hFind, hOutbound rule hMem]

lemma route_append_ne (hOutbound : ∀ rule ∈ front, rule.outboundTag ≠ outbound)
  (hRest : route tables rest flow ≠ some outbound) :
  route tables (front ++ rest) flow ≠ some outbound := by
  cases hFind : front.find? (Rule.applies tables flow) with
  | none => simpa [route, find?_append, hFind] using hRest
  | some rule =>
    have hMem : rule ∈ front := mem_of_find?_eq_some hFind
    simp [route, find?_append, hFind, hOutbound rule hMem]

-- The Table's Sections

variable {policy : RemotePolicy.Policy}

attribute [local simp] Rule.applies nodeRules

def Ordinary (flow : Flow) : Prop :=
  flow.inboundTag ≠ .doh ∧ flow.inboundTag ≠ .shardDns ∧ flow.port ≠ 53

instance (flow : Flow) : Decidable (Ordinary flow) := inferInstanceAs (Decidable (_ ∧ _))

lemma dnsRules_skip (hFlow : Ordinary flow) :
  ∀ rule ∈ dnsRules, rule.applies tables flow = false := by
  rcases hFlow with ⟨hDoh, hShard, hPort⟩
  simp [dnsRules, hDoh, hShard, hPort]

structure NotForNode (tables : Tables) (policy : RemotePolicy.Policy) (flow : Flow) : Prop where
  probe : nameIn tables flow probeRuleHosts = false
  sanctioned : nameIn tables flow (sanctionedRuleDomains policy) = false
  session : nameIn tables flow googleSessionHosts = false
  geoBlocked : nameIn tables flow (geoBlockedRuleHosts policy) = false

lemma nodeRules_skip
  (hGeoBlocked : policy.geoBlocked ≠ []) (hFlow : NotForNode tables policy flow) :
  ∀ rule ∈ nodeRules policy, rule.applies tables flow = false := by
  have hProbe : probeRuleHosts ≠ [] := by decide
  have hSanctioned : sanctionedRuleDomains policy ≠ [] := by
    simp [sanctionedRuleDomains, sanctionedDomains]
  have hSession : googleSessionHosts ≠ [] := by decide
  have hHosts : geoBlockedRuleHosts policy ≠ [] := by simpa [geoBlockedRuleHosts] using hGeoBlocked
  simp [hFlow.probe, hFlow.sanctioned, hFlow.session, hFlow.geoBlocked, hProbe, hSanctioned, hSession, hHosts]

lemma route_sanctioned
  (hFlow : Ordinary flow) (hName : nameIn tables flow (sanctionedRuleDomains policy)) :
  route tables (smartSplitRules policy) flow = some .proxy := by
  rw [smartSplitRules, append_assoc, append_assoc, route_append_of_skip (dnsRules_skip hFlow)]
  apply route_append_of_section
  · simp
  · refine ⟨_, mem_cons_of_mem _ mem_cons_self, ?_⟩
    simp [hName]

lemma route_quic_ne_directFrag (hFlow : Ordinary flow) (hNetwork : flow.network = .udp)
  (hPort : flow.port = 443) : route tables (smartSplitRules policy) flow ≠ some .directFrag := by
  rw [smartSplitRules, append_assoc, append_assoc, route_append_of_skip (dnsRules_skip hFlow)]
  apply route_append_ne
  · simp
  have hRest : route tables restRules flow = some .blackhole := by
    rw [restRules]
    apply route_cons_of_applies
    simp [hNetwork, hPort]
  cases hMeta : nameIn tables flow metaDomains with
  | true =>
    -- the blackhole stands before the rule that fragments
    rw [listRules, cons_append, route_cons_of_applies]
    · decide
    · simp [hMeta, hNetwork, hPort]
  | false =>
    have hNe : metaDomains ≠ [] := by decide
    rw [listRules, cons_append, cons_append, route_cons_of_skip (by simp [hMeta, hNe]),
      route_cons_of_skip (by simp [hMeta, hNe])]
    apply route_append_ne
    · simp
    · rw [hRest]
      decide

lemma nameIn_iranianDomains {name : Text} (hDomain : flow.domain = some name)
  (hName : isUnder "ir".toList name ∨ tables.geosite "category-ir".toList name) :
  nameIn tables flow iranianDomains := by
  have hParent : matchesDomain tables name "domain:ir".toList = isUnder "ir".toList name := rfl
  have hTag : matchesDomain tables name "geosite:category-ir".toList =
    tables.geosite "category-ir".toList name := rfl
  rw [nameIn, hDomain, Option.any_some,
    iranianDomains, map_cons, map_cons, any_cons, any_cons, hParent, hTag]
  simpa using hName

lemma route_iranian (hGeoBlocked : policy.geoBlocked ≠ []) (hFlow : Ordinary flow)
  (hNode : NotForNode tables policy flow) (hMeta : nameIn tables flow metaDomains = false)
  (hAddress : addressIn tables flow transportIps = false)
  (hName : nameIn tables flow iranianDomains) :
  route tables (smartSplitRules policy) flow = some .directPlain := by
  have hMetaNe : metaDomains ≠ [] := by decide
  have hIpsNe : transportIps ≠ [] := by decide
  rw [smartSplitRules, append_assoc, append_assoc, route_append_of_skip (dnsRules_skip hFlow),
    route_append_of_skip (nodeRules_skip hGeoBlocked hNode),
    listRules, cons_append, cons_append,
    cons_append, cons_append,
    route_cons_of_skip (by simp [hMeta, hMetaNe]),
    route_cons_of_skip (by simp [hMeta, hMetaNe]),
    route_cons_of_skip (by simp [hAddress, hIpsNe])]
  apply route_cons_of_applies
  simp [hName]

/- HTTPS that nothing above claims is fragmented. -/
lemma route_https_unclaimed (hNetwork : flow.network = .tcp) (hPort : flow.port = 443)
  (hUnclaimed : ∀ rule ∈ dnsRules ++ nodeRules policy ++ listRules, rule.applies tables flow =
  false) : route tables (smartSplitRules policy) flow = some .directFrag := by
  rw [smartSplitRules, route_append_of_skip hUnclaimed, restRules,
    route_cons_of_skip (by simp [hNetwork])]
  -- the two rules that fragment are a section
  change route tables ([_, _] ++ [_, _]) flow = _
  apply route_append_of_section
  · simp
  · refine ⟨_, mem_cons_of_mem _ mem_cons_self, ?_⟩
    simp [hNetwork, hPort]

end Table

-- The Whole Table

/-
  For any contents of the lists and the policy lists in force after any history, and for every
  flow that is neither the proxy's own resolver nor DNS: QUIC is never fragmented; sanctioned
  names leave through the node; names of the country that no list before claims leave plainly;
  HTTPS that no rule before claims is fragmented.
-/
theorem smart_split_no_bypass
    (platform : RemotePolicy.Platform)
    (file : Option Text)
    {remote : RemotePolicy.Remote}
    (hRun :
      Run.Reaches (RemotePolicy.step platform) Run.Always (RemotePolicy.launch file) remote)
    (tables : Tables)
    (flow : Flow)
    (hFlow : Ordinary flow) :
  let policy := RemotePolicy.policy platform remote
  let outbound := route tables (smartSplitRules policy) flow
  (flow.network = .udp → flow.port = 443 → outbound ≠ some .directFrag) ∧
    (nameIn tables flow (sanctionedRuleDomains policy) = true → outbound = some .proxy) ∧
    (∀ name, flow.domain = some name → isUnder "ir".toList name = true ∨
      tables.geosite "category-ir".toList name = true →
      NotForNode tables policy flow →
      nameIn tables flow metaDomains = false →
      addressIn tables flow transportIps = false →
      outbound = some .directPlain) ∧
    (flow.network = .tcp → flow.port = 443 → (∀ rule ∈ dnsRules ++ nodeRules policy ++ listRules,
      rule.applies tables flow = false) →
      outbound = some .directFrag) := by
  intro policy outbound
  have hSound : RemotePolicy.Sound policy := RemotePolicy.sound_of_reaches hRun
  refine ⟨?_, ?_, ?_, ?_⟩
  · intro hNetwork hPort
    exact route_quic_ne_directFrag hFlow hNetwork hPort
  · intro hName
    exact route_sanctioned hFlow hName
  · intro name hDomain hName hNode hMeta hAddress
    exact route_iranian hSound.geoBlocked_ne hFlow hNode hMeta
      hAddress (nameIn_iranianDomains hDomain hName)
  · intro hNetwork hPort hUnclaimed
    exact route_https_unclaimed hNetwork hPort hUnclaimed

def shopFlow : Flow where
  inboundTag := .socks
  network := .tcp
  port := 443
  protocol := some .tls
  domain := some "shop.ir".toList
  address := none

def noTables : Tables where
  geosite := fun _ _ => false
  addresses := fun _ _ => false
  other := fun _ _ => false

theorem shopFlow_no_bypass : route noTables (smartSplitRules (RemotePolicy.policy
  RemotePolicy.hostile (RemotePolicy.launch none))) shopFlow = some .directPlain := by
  have hTable := smart_split_no_bypass RemotePolicy.hostile
    none .start noTables shopFlow (by decide)
  refine hTable.2.2.1 "shop.ir".toList rfl (.inl (by decide)) ?_ (by decide) rfl
  constructor <;> decide +kernel

end Kourosh.Shard
