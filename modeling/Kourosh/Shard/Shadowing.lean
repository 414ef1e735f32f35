import Mathlib.Tactic.IntervalCases
import Kourosh.Shard.NoBypass

/-
  Which rules of a Smart Split tunnel are ever used.

  A rule is dead if the rules before it claim every flow that it is for.

  Correctness is proven by:
    * `alive_iff_open`
-/

-- First Match By Position

namespace Kourosh.Shard

open List
open Bool

def firstMatch (tables : Tables) (rules : List Rule)
  (flow : Flow) : Option Nat := rules.findIdx? (Rule.applies tables flow)

/- The first `true` of the list is at the position. -/
def FirstAt : List Bool → Nat → Prop
| [], _ => False
| b :: _, 0 => b = true
| b :: bs, i + 1 => b = false ∧ FirstAt bs i

lemma findIdx?_eq_some_iff_firstAt {α : Type}
  (p : α → Bool) (xs : List α) (i : Nat) : xs.findIdx? p = some i ↔ FirstAt (xs.map p) i := by
  induction xs generalizing i with
  | nil => simp [FirstAt]
  | cons x _ ih =>
    rw [findIdx?_cons, map_cons]
    cases hX : p x with
    | true =>
      cases i with
      | zero | succ => simp [FirstAt]
    | false =>
      cases i with
      | zero => simp [FirstAt]
      | succ => simp [FirstAt, ih]

-- The Rules By Name

inductive Position where
  | doh
  | shardDns
  | dns
  | probe
  | sanctioned
  | session
  | geoBlocked
  | metaQuic
  | metaNames
  | transport
  | iranianNames
  | iranianIps
  | blockPage
  | quic
  | tls
  | https
  | tcp
  | udp

def Position.index : Position → Nat
| doh => 0
| shardDns => 1
| dns => 2
| probe => 3
| sanctioned => 4
| session => 5
| geoBlocked => 6
| metaQuic => 7
| metaNames => 8
| transport => 9
| iranianNames => 10
| iranianIps => 11
| blockPage => 12
| quic => 13
| tls => 14
| https => 15
| tcp => 16
| udp => 17

def Position.all : List Position :=
  [.doh, .shardDns, .dns, .probe, .sanctioned, .session, .geoBlocked, .metaQuic,
    .metaNames, .transport, .iranianNames, .iranianIps, .blockPage, .quic, .tls, .https, .tcp, .udp]

section Table

variable {tables : Tables} {policy : RemotePolicy.Policy} {flow : Flow}

def iranianIps : List Text := ["geoip:ir", "geoip:private"].map String.toList

def blockPageIps : List Text := ["10.10.34.0/24".toList]

def overTcp (flow : Flow) : Bool := decide (flow.network = .tcp)

def overUdp (flow : Flow) : Bool := decide (flow.network = .udp)

def verdict (tables : Tables) (policy : RemotePolicy.Policy) (flow : Flow) : Position → Bool
| .doh => decide (flow.inboundTag = .doh)
| .shardDns => decide (flow.inboundTag = .shardDns)
| .dns => decide (flow.port = 53)
| .probe => nameIn tables flow probeRuleHosts && (decide (flow.port = 80) && overTcp flow)
| .sanctioned => nameIn tables flow (sanctionedRuleDomains policy)
| .session =>
  nameIn tables flow googleSessionHosts && (decide (flow.port = 443) && overTcp flow)
| .geoBlocked =>
  (policy.geoBlocked.isEmpty || nameIn tables flow (geoBlockedRuleHosts policy)) &&
    (decide (flow.port = 443) && overTcp flow)
| .metaQuic => nameIn tables flow metaDomains && (decide (flow.port = 443) && overUdp flow)
| .metaNames => nameIn tables flow metaDomains
| .transport => addressIn tables flow transportIps
| .iranianNames => nameIn tables flow iranianDomains
| .iranianIps => addressIn tables flow iranianIps
| .blockPage => addressIn tables flow blockPageIps
| .quic => decide (flow.port = 443) && overUdp flow
| .tls => overTcp flow && decide (flow.protocol = some .tls)
| .https => decide (flow.port = 443) && overTcp flow
| .tcp => overTcp flow
| .udp => overUdp flow

def verdicts (tables : Tables) (policy : RemotePolicy.Policy)
  (flow : Flow) : List Bool := Position.all.map (verdict tables policy flow)

lemma getElem?_verdicts (position : Position) : (verdicts tables policy flow)[position.index]? =
  some (verdict tables policy flow position) := by
  cases position <;> rfl

lemma map_applies_smartSplitRules (tables : Tables) (policy : RemotePolicy.Policy) (flow : Flow) :
  (smartSplitRules policy).map (Rule.applies tables flow) = verdicts tables policy flow := by
  have hSanctioned : (sanctionedRuleDomains policy).isEmpty = false := by
    simp [sanctionedRuleDomains, sanctionedDomains]
  have hGeo : (geoBlockedRuleHosts policy).isEmpty = policy.geoBlocked.isEmpty := by
    simp [geoBlockedRuleHosts]
  have hProbe : probeRuleHosts.isEmpty = false := rfl
  have hSession : googleSessionHosts.isEmpty = false := rfl
  have hMeta : metaDomains.isEmpty = false := rfl
  have hTransport : transportIps.isEmpty = false := rfl
  have hIranian : iranianDomains.isEmpty = false := rfl
  have hPorts : probeRulePorts = [80] := by decide +kernel
  have hTls : flow.protocol.any [Protocol.tls].contains = decide (flow.protocol = some .tls) := by
    cases flow.protocol with
    | none => rfl
    | some protocol => cases protocol <;> rfl
  simp only [smartSplitRules, dnsRules, nodeRules, listRules, restRules,
    cons_append, nil_append, map_cons, map_nil, Rule.applies, hSanctioned, hGeo,
    hProbe, hSession, hMeta, hTransport, hIranian, hPorts, hTls, verdicts, Position.all, verdict]
  simp [overTcp, overUdp, iranianIps, blockPageIps, Bool.and_assoc]

lemma firstMatch_eq_some_iff {i : Nat} : firstMatch tables (smartSplitRules policy) flow =
  some i ↔ FirstAt (verdicts tables policy flow) i := by
  rw [firstMatch, findIdx?_eq_some_iff_firstAt, map_applies_smartSplitRules]

lemma firstAt_iff {bs : List Bool}
  {i : Nat} : FirstAt bs i ↔ bs[i]? = some true ∧ ∀ j < i, bs[j]? = some false := by
  induction bs generalizing i with
  | nil => simp [FirstAt]
  | cons _ _ ih =>
    cases i with
    | zero => simp [FirstAt]
    | succ =>
      simp only [FirstAt, ih, getElem?_cons_succ]
      constructor
      · rintro ⟨hHead, hHere, hBefore⟩
        refine ⟨hHere, ?_⟩
        intro j hLt
        cases j with
        | zero => simp [hHead]
        | succ j => exact hBefore j (by omega)
      · rintro ⟨hHere, hBefore⟩
        refine ⟨by simpa using hBefore 0 (by omega), hHere, ?_⟩
        intro j hLt
        exact hBefore (j + 1) (by omega)

-- Dead And Alive

variable {i : Nat} {entries : List Text} {address : IpAddr}
variable {position : Position}

def hasTarget (flow : Flow) : Bool := flow.domain.isSome || flow.address.isSome

def Satisfiable (tables : Tables) (policy : RemotePolicy.Policy) (i : Nat) : Prop :=
  ∃ flow, hasTarget flow = true ∧
    ∃ rule ∈ (smartSplitRules policy)[i]?, rule.applies tables flow = true

def Alive (tables : Tables) (policy : RemotePolicy.Policy) (i : Nat) : Prop :=
  ∃ flow, hasTarget flow = true ∧ firstMatch tables (smartSplitRules policy) flow = some i

-- What Keeps A Rule Alive

def covers (tables : Tables) (entries : List Text) (name : Text) : Bool :=
  entries.any (matchesDomain tables name)

def contains (tables : Tables) (entries : List Text) (address : IpAddr) : Bool :=
  entries.any fun entry => tables.addresses entry address

def FreeName (tables : Tables) (policy : RemotePolicy.Policy) (name : Text) : Prop :=
  covers tables (sanctionedRuleDomains policy) name = false ∧
    covers tables metaDomains name = false ∧ covers tables iranianDomains name = false

def FreeAddress (tables : Tables) (address : IpAddr) : Prop :=
  contains tables transportIps address = false ∧
    contains tables iranianIps address = false ∧ contains tables blockPageIps address = false

def Free (tables : Tables) (policy : RemotePolicy.Policy) : Prop :=
  (∃ name, FreeName tables policy name) ∨ ∃ address, FreeAddress tables address

def Open (tables : Tables) (policy : RemotePolicy.Policy) : Position → Prop
| .doh | .shardDns | .dns | .probe | .sanctioned => True
| .session =>
  ∃ name, covers tables googleSessionHosts name = true ∧
    covers tables (sanctionedRuleDomains policy) name = false
| .geoBlocked =>
  -- an empty list of hosts is no condition at all
  policy.geoBlocked = [] ∨ ∃ name, covers tables (geoBlockedRuleHosts policy) name = true ∧
    covers tables (sanctionedRuleDomains policy) name = false ∧
    covers tables googleSessionHosts name = false
| .metaQuic | .metaNames =>
  ∃ name, covers tables metaDomains name = true ∧
    covers tables (sanctionedRuleDomains policy) name = false
| .transport => ∃ address, contains tables transportIps address = true
| .iranianNames =>
  ∃ name, covers tables iranianDomains name = true ∧
    covers tables (sanctionedRuleDomains policy) name = false ∧
    covers tables metaDomains name = false
| .iranianIps =>
  ∃ address, contains tables iranianIps address = true ∧
    contains tables transportIps address = false
| .blockPage =>
  ∃ address, contains tables blockPageIps address = true ∧
    contains tables transportIps address = false ∧
    contains tables iranianIps address = false
| .quic | .tls | .tcp | .udp => Free tables policy
| .https =>
  policy.geoBlocked ≠ [] ∧ ((∃ name, FreeName tables policy name ∧
        covers tables googleSessionHosts name = false ∧
        covers tables (geoBlockedRuleHosts policy) name = false) ∨
      ∃ address, FreeAddress tables address)

@[simps] def named (name : Text) (network : Network) (port : Nat)
  (protocol : Option Protocol) : Flow where
  inboundTag := .socks
  network := network
  port := port
  protocol := protocol
  domain := some name
  address := none

@[simps] def nameless (address : IpAddr) (network : Network) (port : Nat)
  (protocol : Option Protocol) : Flow where
  inboundTag := .socks
  network := network
  port := port
  protocol := protocol
  domain := none
  address := some address

lemma nameIn_eq_true_iff : nameIn tables flow entries ↔
  ∃ name, flow.domain = some name ∧ covers tables entries name := by
  cases hDomain : flow.domain with
  | none => simp [nameIn, hDomain]
  | some => simp [nameIn, hDomain, covers]

lemma covers_eq_false_of_nameIn {name : Text} (hDomain : flow.domain = some name)
  (hOut : nameIn tables flow entries = false) : covers tables entries name = false := by
  rw [nameIn, hDomain, Option.any_some] at hOut
  exact hOut

lemma addressIn_eq_true_iff : addressIn tables flow entries ↔
  ∃ address, flow.address = some address ∧ contains tables entries address := by
  cases hAddress : flow.address with
  | none => simp [addressIn, hAddress]
  | some => simp [addressIn, hAddress, contains]

lemma contains_eq_false_of_addressIn (hAddress : flow.address = some address)
  (hOut : addressIn tables flow entries = false) : contains tables entries address = false := by
  rw [addressIn, hAddress, Option.any_some] at hOut
  exact hOut

structure Passed (tables : Tables) (policy : RemotePolicy.Policy) (flow : Flow)
  (i : Nat) : Prop where
  sanctioned : 4 < i → nameIn tables flow (sanctionedRuleDomains policy) = false
  session :
    5 < i → flow.port = 443 → overTcp flow = true → nameIn tables flow googleSessionHosts = false
  geoBlocked : 6 < i → flow.port = 443 → overTcp flow = true →
    policy.geoBlocked ≠ [] ∧ nameIn tables flow (geoBlockedRuleHosts policy) = false
  metaNames : 8 < i → nameIn tables flow metaDomains = false
  transport : 9 < i → addressIn tables flow transportIps = false
  iranianNames : 10 < i → nameIn tables flow iranianDomains = false
  iranianIps : 11 < i → addressIn tables flow iranianIps = false
  blockPage : 12 < i → addressIn tables flow blockPageIps = false

lemma passed_of_firstAt (hFirst : FirstAt (verdicts tables policy flow) i) :
  Passed tables policy flow i := by
  have hBefore :
    ∀ position : Position, position.index < i → verdict tables policy flow position = false := by
    intro position hLt
    have hVerdict := (firstAt_iff.mp hFirst).2 _ hLt
    rw [getElem?_verdicts] at hVerdict
    exact Option.some.inj hVerdict
  refine ⟨?_, ?_, ?_, ?_, ?_, ?_, ?_, ?_⟩
  · exact hBefore .sanctioned
  · intro hLt hPort hTcp
    simpa [verdict, hPort, hTcp] using hBefore .session hLt
  · intro hLt hPort hTcp
    simpa [verdict, hPort, hTcp] using hBefore .geoBlocked hLt
  · exact hBefore .metaNames
  · exact hBefore .transport
  · exact hBefore .iranianNames
  · exact hBefore .iranianIps
  · exact hBefore .blockPage

section

variable (hPassed : Passed tables policy flow i) (hLt : 12 < i) (hTarget : hasTarget flow)

include hPassed hLt hTarget

lemma Passed.target : (∃ name, flow.domain = some name ∧
  FreeName tables policy name) ∨ ∃ address, FreeAddress tables address := by
  cases hDomain : flow.domain with
  | some name =>
    exact .inl ⟨name, rfl, covers_eq_false_of_nameIn hDomain (hPassed.sanctioned (by omega)),
      covers_eq_false_of_nameIn hDomain (hPassed.metaNames (by omega)),
      covers_eq_false_of_nameIn hDomain (hPassed.iranianNames (by omega))⟩
  | none =>
    cases hAddress : flow.address with
    | none => simp [hasTarget, hDomain, hAddress] at hTarget
    | some address =>
      exact .inr ⟨address, contains_eq_false_of_addressIn hAddress (hPassed.transport (by omega)),
        contains_eq_false_of_addressIn hAddress (hPassed.iranianIps (by omega)),
        contains_eq_false_of_addressIn hAddress (hPassed.blockPage (by omega))⟩

lemma Passed.free : Free tables policy := by
  rcases hPassed.target hLt hTarget with ⟨name, -, hFree⟩ | hAddress
  · exact .inl ⟨name, hFree⟩
  · exact .inr hAddress

end

lemma open_of_alive (hAlive : Alive tables policy position.index) :
  Open tables policy position := by
  rcases hAlive with ⟨flow, hTarget, hFirst⟩
  rw [firstMatch_eq_some_iff] at hFirst
  have hPassed := passed_of_firstAt hFirst
  have hHere : verdict tables policy flow position := by
    have hVerdict := (firstAt_iff.mp hFirst).1
    rw [getElem?_verdicts] at hVerdict
    exact Option.some.inj hVerdict
  cases position with
  | session | metaQuic =>
    rw [verdict, and_eq_true] at hHere
    rcases nameIn_eq_true_iff.mp hHere.1 with ⟨name, hDomain, hName⟩
    exact ⟨name, hName, covers_eq_false_of_nameIn hDomain (hPassed.sanctioned (by decide))⟩
  | geoBlocked =>
    simp only [verdict, and_eq_true, or_eq_true, List.isEmpty_iff, decide_eq_true_eq] at hHere
    rcases hHere with ⟨hEmpty | hName, hPort, hTcp⟩
    · exact .inl hEmpty
    · rcases nameIn_eq_true_iff.mp hName with ⟨name, hDomain, hName⟩
      exact .inr ⟨name, hName, covers_eq_false_of_nameIn hDomain (hPassed.sanctioned (by decide)),
        covers_eq_false_of_nameIn hDomain (hPassed.session (by decide) hPort hTcp)⟩
  | metaNames =>
    rcases nameIn_eq_true_iff.mp hHere with ⟨name, hDomain, hName⟩
    exact ⟨name, hName, covers_eq_false_of_nameIn hDomain (hPassed.sanctioned (by decide))⟩
  | transport =>
    rcases addressIn_eq_true_iff.mp hHere with ⟨address, -, hIn⟩
    exact ⟨address, hIn⟩
  | iranianNames =>
    rcases nameIn_eq_true_iff.mp hHere with ⟨name, hDomain, hName⟩
    exact ⟨name, hName, covers_eq_false_of_nameIn hDomain (hPassed.sanctioned (by decide)),
      covers_eq_false_of_nameIn hDomain (hPassed.metaNames (by decide))⟩
  | iranianIps =>
    rcases addressIn_eq_true_iff.mp hHere with ⟨address, hAddress, hIn⟩
    exact ⟨address, hIn, contains_eq_false_of_addressIn hAddress (hPassed.transport (by decide))⟩
  | blockPage =>
    rcases addressIn_eq_true_iff.mp hHere with ⟨address, hAddress, hIn⟩
    exact ⟨address, hIn, contains_eq_false_of_addressIn hAddress (hPassed.transport (by decide)),
      contains_eq_false_of_addressIn hAddress (hPassed.iranianIps (by decide))⟩
  | quic | tls | tcp | udp => exact hPassed.free (by decide) hTarget
  | https =>
    simp only [verdict, and_eq_true, decide_eq_true_eq] at hHere
    rcases hHere with ⟨hPort, hTcp⟩
    rcases hPassed.geoBlocked (by decide) hPort hTcp with ⟨hHosts, hGeo⟩
    refine ⟨hHosts, ?_⟩
    rcases hPassed.target (by decide) hTarget with
      ⟨name, hDomain, hFree⟩ | hAddress
    · exact .inl ⟨name, hFree, covers_eq_false_of_nameIn hDomain
        (hPassed.session (by decide) hPort hTcp),
        covers_eq_false_of_nameIn hDomain hGeo⟩
    · exact .inr hAddress
  | _ => trivial

-- Flows For The Open Rules

section

variable (name : Text) (address : IpAddr) (network : Network) (port : Nat)
  (protocol : Option Protocol) (entries : List Text)

@[simp] lemma in_named :
  nameIn tables (named name network port protocol) entries = covers tables entries name ∧
  addressIn tables (named name network port protocol) entries = false := ⟨rfl, rfl⟩

@[simp] lemma in_nameless : nameIn tables (nameless address network port protocol) entries = false ∧
  addressIn tables (nameless address network port protocol) entries =
    contains tables entries address := ⟨rfl, rfl⟩

lemma alive_of_named
  (hFirst : FirstAt (verdicts tables policy (named name network port protocol)) i) :
  Alive tables policy i := ⟨_, rfl, firstMatch_eq_some_iff.mpr hFirst⟩

lemma alive_of_nameless
  (hFirst : FirstAt (verdicts tables policy (nameless address network port protocol)) i) :
  Alive tables policy i := ⟨_, rfl, firstMatch_eq_some_iff.mpr hFirst⟩

lemma alive_of_free (hFree : Free tables policy) (hName : ∀ name, FreeName tables policy name →
  FirstAt (verdicts tables policy (named name network port protocol)) i)
  (hAddress : ∀ address, FreeAddress tables address → FirstAt (verdicts
  tables policy (nameless address network port protocol)) i) : Alive tables policy i := by
  rcases hFree with ⟨name, hFree⟩ | ⟨address, hFree⟩
  · exact alive_of_named name network port protocol (hName name hFree)
  · exact alive_of_nameless address network port protocol (hAddress address hFree)

end

lemma covers_sanctionedRuleDomains (tables : Tables) (policy : RemotePolicy.Policy) :
  covers tables (sanctionedRuleDomains policy) "clients6.google.com".toList := by
  rw [covers, any_eq_true]
  refine ⟨"domain:clients6.google.com".toList, ?_, rfl⟩
  simp [sanctionedRuleDomains, sanctionedDomains]

section Opened

-- which rule is first is read off the list of verdicts
attribute [local simp] FirstAt verdicts Position.all verdict Position.index overTcp overUdp

lemma alive_of_open (hOpen : Open tables policy position) : Alive tables policy position.index := by
  cases position with
  | doh =>
    exact ⟨{ shopFlow with inboundTag := .doh }, rfl, firstMatch_eq_some_iff.mpr rfl⟩
  | shardDns =>
    exact ⟨{ shopFlow with inboundTag := .shardDns }, rfl, firstMatch_eq_some_iff.mpr ⟨rfl, rfl⟩⟩
  | dns => exact alive_of_named "shop.ir".toList .udp 53 none ⟨rfl, rfl, rfl⟩
  | probe =>
    exact alive_of_named "cp.cloudflare.com".toList .tcp 80 none ⟨rfl, rfl, rfl, rfl⟩
  | sanctioned =>
    exact alive_of_named "clients6.google.com".toList .udp 1 none
      ⟨rfl, rfl, rfl, rfl, covers_sanctionedRuleDomains tables policy⟩
  | session =>
    rcases hOpen with ⟨name, hName, hSanctioned⟩
    apply alive_of_named name .tcp 443 none
    simp [hName, hSanctioned]
  | geoBlocked =>
    rcases hOpen with hEmpty | ⟨name, hName, hSanctioned, hSession⟩
    · apply alive_of_nameless (.v4 ⟨1, 1, 1, 1⟩) .tcp 443 none
      simp [hEmpty]
    · apply alive_of_named name .tcp 443 none
      simp [hName, hSanctioned, hSession]
  | metaQuic =>
    rcases hOpen with ⟨name, hName, hSanctioned⟩
    apply alive_of_named name .udp 443 none
    simp [hName, hSanctioned]
  | metaNames =>
    rcases hOpen with ⟨name, hName, hSanctioned⟩
    apply alive_of_named name .udp 1 none
    simp [hName, hSanctioned]
  | transport =>
    rcases hOpen with ⟨address, hIn⟩
    apply alive_of_nameless address .udp 1 none
    simp [hIn]
  | iranianNames =>
    rcases hOpen with ⟨name, hName, hSanctioned, hMeta⟩
    apply alive_of_named name .udp 1 none
    simp [hName, hSanctioned, hMeta]
  | iranianIps =>
    rcases hOpen with ⟨address, hIn, hTransport⟩
    apply alive_of_nameless address .udp 1 none
    simp [hIn, hTransport]
  | blockPage =>
    rcases hOpen with ⟨address, hIn, hTransport, hIranian⟩
    apply alive_of_nameless address .udp 1 none
    simp [hIn, hTransport, hIranian]
  | quic =>
    apply alive_of_free .udp 443 none hOpen <;> simp +contextual [FreeName, FreeAddress]
  | tls =>
    apply alive_of_free .tcp 1 (some .tls) hOpen <;> simp +contextual [FreeName, FreeAddress]
  | https =>
    rcases hOpen with ⟨hHosts, hTarget⟩
    rcases hTarget with ⟨name, ⟨hSanctioned, hMeta, hIranian⟩, hSession, hGeo⟩ |
      ⟨address, hTransport, hIranian, hBlock⟩
    · apply alive_of_named name .tcp 443 none
      simp [hHosts, hSanctioned, hMeta, hIranian, hSession, hGeo]
    · apply alive_of_nameless address .tcp 443 none
      simp [hHosts, hTransport, hIranian, hBlock]
  | tcp =>
    apply alive_of_free .tcp 1 none hOpen <;> simp +contextual [FreeName, FreeAddress]
  | udp =>
    apply alive_of_free .udp 1 none hOpen <;> simp +contextual [FreeName, FreeAddress]

end Opened

-- The Block Page

lemma route_eq_verdicts (tables : Tables) (policy : RemotePolicy.Policy)
  (flow : Flow) : route tables (smartSplitRules policy) flow = (((verdicts tables policy flow).zip
  ((smartSplitRules policy).map Rule.outboundTag)).find? Prod.fst).map Prod.snd := by
  rw [← map_applies_smartSplitRules, route]
  induction smartSplitRules policy with
  | nil => rfl
  | cons rule _ ih =>
    rw [map_cons, map_cons, zip_cons_cons, find?_cons, find?_cons]
    cases rule.applies tables flow with
    | true => rfl
    | false => exact ih

/-
  A nameless flow to the block page is blackholed if none of the rules before claims its address.
-/
lemma route_block_page_iff (hFlow : Ordinary flow)
  (hNameless : flow.domain = none) (hAddress : flow.address = some address)
  (hBlock : contains tables blockPageIps address) :
  route tables (smartSplitRules policy) flow = some .blackhole ↔
  contains tables transportIps address = false ∧ contains tables iranianIps address = false ∧
  (policy.geoBlocked = [] → ¬ (flow.network = .tcp ∧ flow.port = 443)) := by
  have hNames : ∀ entries, nameIn tables flow entries = false := by
    intro entries
    rw [nameIn, hNameless]
    rfl
  have hAddresses : ∀ entries, addressIn tables flow entries = contains tables entries address := by
    intro entries
    rw [addressIn, hAddress]
    rfl
  have hTags : (smartSplitRules policy).map Rule.outboundTag = [.directFrag, .proxy, .dnsOut,
    .proxy, .proxy, .proxy, .proxy, .blackhole, .directFrag, .proxy, .directPlain, .directPlain,
    .blackhole, .blackhole, .directFrag, .directFrag, .directPlain, .directPlain] := rfl
  rw [route_eq_verdicts, hTags]
  simp only [verdicts, Position.all, map_cons, map_nil, verdict, hNames, hAddresses,
    hBlock, Bool.false_and, Bool.or_false, zip_cons_cons, find?_cons, hFlow.1, hFlow.2]
  have hHosts : (policy.geoBlocked = [] → ¬ (flow.network = .tcp ∧ flow.port = 443)) ↔
    (policy.geoBlocked.isEmpty && (decide (flow.port = 443) && overTcp flow)) = false := by
    simp only [overTcp, and_eq_false_imp, List.isEmpty_iff,
      decide_eq_true_eq, decide_eq_false_iff_not, not_and']
  rw [hHosts]
  -- what is left to be read are three verdicts
  cases policy.geoBlocked.isEmpty && _ with
  | true => simp
  | false =>
    cases contains tables transportIps address with
    | true => simp
    | false => cases contains tables iranianIps address <;> simp

end Table

-- The Whole Table

/-
  For any contents of the lists, each rule is the first match of some flow exactly if it is open,
  and a nameless flow to the block page is blackholed exactly if neither the lists of addresses
  before nor a rule without hosts claim it.
-/
theorem alive_iff_open
    (tables : Tables)
    (policy : RemotePolicy.Policy) :
    (∀ position : Position, Alive tables policy position.index ↔ Open tables policy position) ∧
    ∀ (flow : Flow) (address : IpAddr),
      Ordinary flow →
      flow.domain = none →
      flow.address = some address →
      contains tables blockPageIps address = true →
      (route tables (smartSplitRules policy) flow = some .blackhole ↔
         contains tables transportIps address = false ∧
         contains tables iranianIps address = false ∧
         (policy.geoBlocked = [] → ¬ (flow.network = .tcp ∧ flow.port = 443))) := by
  refine ⟨fun position => ⟨open_of_alive, alive_of_open⟩, ?_⟩
  intro flow address hFlow hNameless hAddress hBlock
  exact route_block_page_iff hFlow hNameless hAddress hBlock

def inBlockPage : IpAddr → Bool
| .v4 ip => ip.a == 10 && ip.b == 10 && ip.c == 34
| .v6 _ => false

structure Usual (tables : Tables) : Prop where
  block : ∀ address, contains tables blockPageIps address = inBlockPage address
  tens : ∀ b c d : UInt8, tables.addresses "geoip:private".toList (.v4 ⟨10, b, c, d⟩) = true

def privateAddresses (entry : Text) : IpAddr → Bool
| .v4 ip =>
  (entry == "10.10.34.0/24".toList && inBlockPage (.v4 ip)) ||
    (entry == "geoip:private".toList && ip.isPrivate)
| .v6 _ => false

def privateTables : Tables where
  geosite := fun _ _ => false
  addresses := privateAddresses
  other := fun _ _ => false

lemma usual_privateTables : Usual privateTables where
  block := by
    intro address
    rw [contains, blockPageIps, any_cons, any_nil, Bool.or_false]
    cases address with
    | v4 =>
      have hTag : ("10.10.34.0/24".toList == "geoip:private".toList) = false := by decide
      simp [privateTables, privateAddresses]
    | v6 => rfl
  tens := by
    intro b c d
    simp [privateTables, privateAddresses, Ipv4Addr.isPrivate]

def blockPageTables : Tables where
  geosite := fun _ _ => false
  addresses := fun entry address => entry == "10.10.34.0/24".toList && inBlockPage address
  other := fun _ _ => false

def blockPageFlow : Flow := nameless (.v4 ⟨10, 10, 34, 34⟩) .tcp 80 none

/- Only without the private networks is it blackholed. -/
theorem alive_iff_open_blockPageFlow :
  route blockPageTables (smartSplitRules RemotePolicy.builtin) blockPageFlow = some .blackhole ∧
  ¬ route privateTables (smartSplitRules RemotePolicy.builtin) blockPageFlow =
  some .blackhole := by
  constructor
  · refine ((alive_iff_open blockPageTables RemotePolicy.builtin).2 blockPageFlow _ (by decide) rfl
      rfl rfl).mpr ⟨rfl, rfl, ?_⟩
    simp [blockPageFlow, nameless]
  · rw [(alive_iff_open privateTables RemotePolicy.builtin).2 blockPageFlow _ (by decide) rfl
      rfl rfl]
    rintro ⟨-, hIranian, -⟩
    exact absurd hIranian (by decide +kernel)

/- The rule for the block page is the match of no flow. -/
theorem block_page_rule_is_dead :
  ¬ ∀ (tables : Tables) (policy : RemotePolicy.Policy), Usual tables →
  ∀ i < (smartSplitRules policy).length, Satisfiable tables policy i → Alive tables policy i := by
  intro hAll
  have hAlive : Alive privateTables RemotePolicy.builtin Position.blockPage.index := by
    apply hAll privateTables RemotePolicy.builtin usual_privateTables
    · decide +kernel
    · refine ⟨blockPageFlow, rfl, _, rfl, ?_⟩
      decide +kernel
  rcases open_of_alive hAlive with ⟨address, hBlock, -, hOut⟩
  rw [usual_privateTables.block] at hBlock
  cases address with
  | v6 => cases hBlock
  | v4 ip =>
    rcases ip with ⟨a, b, c, d⟩
    have hTen : a = 10 := by
      simp only [inBlockPage, and_eq_true, beq_iff_eq] at hBlock
      exact hBlock.1.1
    subst hTen
    have hIn := usual_privateTables.tens b c d
    rw [contains, any_eq_false] at hOut
    exact absurd hIn (hOut "geoip:private".toList (by decide))

end Kourosh.Shard
