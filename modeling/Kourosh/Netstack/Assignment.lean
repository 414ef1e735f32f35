import Kourosh.Masque.Assignment
import Kourosh.Netstack.Evolution

/-
  Assigned addresses on the netstack interface.

  Correctness is proven by:
    * `kept_of_exec_iff`
-/

-- The Bridge Task

namespace Kourosh.Netstack

open Masque (AssignedAddr AssignCapsule CapsuleParser)
open List Option Masque CapsuleParser

/- The arguments of `set_addrs`. -/
abbrev Addrs := Option (Ipv4Addr × UInt8) × Option (Ipv6Addr × UInt8)

def bridgeCall (a : AssignedAddr) : Addrs :=
  match a.ip with
  | .v4 ip => (some (ip, a.prefixLen), none)
  | .v6 ip => (none, some (ip, a.prefixLen))

def Event.addrs : Event → Option Addrs
| .cmd (.setAddrs v4 v6) _ => some (v4, v6)
| _ => none

def onIface (iface : Interface) : Option Addrs → Option Interface
| none => some iface
| some a => applyAddrs iface a.1 a.2

/-
  What a call did to the interface: it changed it as the addresses of its command say, or it
  panicked over them.
-/
def Reconfigures (iface : Interface) (a : Option Addrs) : Except Panic NetStack → Prop
| .ok s => onIface iface a = some s.iface
| .error .address => onIface iface a = none
| .error .handle => True

variable {p : Profile} {s s' : NetStack}

lemma reconfigures_handleCmd (s : NetStack) (opening : Opening) (cmd : Cmd) :
  Reconfigures s.iface (Event.addrs (.cmd cmd opening)) (s.handleCmd p opening cmd) := by
  cases cmd with
  | openTcp | openUdp =>
    simp only [NetStack.handleCmd]
    split
    all_goals rfl
  | setAddrs =>
    simp only [NetStack.handleCmd]
    split
    all_goals assumption
  | enableAccept => rfl

variable {r : Except Panic NetStack} {iface iface' : Interface}
variable {calls : List Addrs} {family : IpAddr → Bool} {spawned : Option IpAddr}
variable {addrs : List AssignedAddr} {a : AssignedAddr}

lemma reconfigures_of_next {e : Event} (hNext : s.next p e = some r) :
  Reconfigures s.iface e.addrs r := by
  cases e with
  | cmd cmd opening =>
    rcases ite_none_right_eq_some.mp hNext with ⟨_, hResult⟩
    cases hResult
    exact reconfigures_handleCmd s opening cmd
  | _ =>
    have hSettled := NetStack.settled_of_next hNext nofun
    cases r with
    | ok => exact congrArg some hSettled.1.symm
    | error =>
      cases hSettled
      trivial

-- Whole Runs

def applyAll (iface : Interface) (calls : List Addrs) : Option Interface :=
  calls.foldlM (fun i a => applyAddrs i a.1 a.2) iface

lemma applyAll_cons_event (iface : Interface)
  (e : Event) (events : List Event) : applyAll iface ((e :: events).filterMap Event.addrs) =
  (onIface iface e.addrs).bind (applyAll · (events.filterMap Event.addrs)) := by
  cases hAddrs : e.addrs with
  | none =>
    rw [filterMap_cons_none hAddrs]
    rfl
  | some =>
    rw [filterMap_cons_some hAddrs]
    rfl

def Configured (iface : Interface) (calls : List Addrs) : Except Panic NetStack → Prop
| .ok s => applyAll iface calls = some s.iface
| .error _ => applyAll iface calls = none

lemma configured_of_exec {events : List Event} (hCons : s.tables.Consistent)
  (hExec : Run.exec (step p) (.ok s) events = some r) :
  Configured s.iface (events.filterMap Event.addrs) r := by
  induction events generalizing s with
  | nil =>
    cases hExec
    rfl
  | cons e events ih =>
    rcases bind_eq_some_iff.mp hExec with ⟨r₁, hNext, hRest⟩
    have hFirst := reconfigures_of_next hNext
    rcases NetStack.goesOn_next hCons hNext with rfl | ⟨s₁, rfl, hCons₁⟩
    · -- behind a panic there is no further event
      cases events with
      | nil =>
        cases hRest
        simp only [Configured, applyAll_cons_event]
        rw [hFirst]
        rfl
      | cons => cases hRest
    · have hLater := ih hCons₁ hRest
      simp only [Reconfigures] at hFirst
      cases r with
      | ok | error =>
        simp only [Configured, applyAll_cons_event, hFirst] at hLater ⊢
        exact hLater

def Accepted (a : Addrs) : Prop := ∀ cidr ∈ addrsOf a.1 a.2, assignable cidr.address = true

lemma accepted_of_applyAddrs {a : Addrs} (hApply : applyAddrs iface a.1 a.2 = some iface') :
  Accepted a ∧ iface'.addrs = addrsOf a.1 a.2 := by
  rcases ite_none_right_eq_some.mp hApply with ⟨hAll, hSame⟩
  cases hSame
  exact ⟨List.all_eq_true.mp hAll, rfl⟩

lemma applyAddrs_isSome (iface : Interface)
  {a : Addrs} (hAccepted : Accepted a) : ∃ iface', applyAddrs iface a.1 a.2 = some iface' :=
  ⟨_, if_pos (List.all_eq_true.mpr hAccepted)⟩

lemma addrs_of_applyAll (hApply : applyAll iface calls = some iface') : (∀ a ∈ calls, Accepted a) ∧
  iface'.addrs = (calls.getLast?.map fun a => addrsOf a.1 a.2).getD iface.addrs := by
  induction calls generalizing iface with
  | nil =>
    cases hApply
    simp
  | cons a calls ih =>
    rcases bind_eq_some_iff.mp hApply with ⟨iface₁, hFirst, hRest⟩
    rcases accepted_of_applyAddrs hFirst with ⟨hAccepted, hAddrs⟩
    rcases ih hRest with ⟨hLater, hLast⟩
    refine ⟨forall_mem_cons.mpr ⟨hAccepted, hLater⟩, ?_⟩
    rw [hLast, hAddrs, getLast?_cons]
    cases calls.getLast? with
    | none | some => rfl

lemma applyAll_isSome (iface : Interface)
  (hAccepted : ∀ a ∈ calls, Accepted a) : ∃ iface', applyAll iface calls = some iface' := by
  induction calls generalizing iface with
  | nil => exact ⟨iface, rfl⟩
  | cons a _ ih =>
    rcases applyAddrs_isSome iface (hAccepted a mem_cons_self) with ⟨iface₁, hFirst⟩
    rcases ih iface₁ fun b hMem => hAccepted b (mem_cons_of_mem a hMem) with
      ⟨iface₂, hRest⟩
    refine ⟨iface₂, ?_⟩
    simp only [applyAll, foldlM_cons, hFirst]
    exact hRest

-- Kept Addresses

def Interface.Holds (iface : Interface) (ip : IpAddr) : Prop :=
  ∃ cidr ∈ iface.addrs, cidr.address = ip

instance (iface : Interface) (ip : IpAddr) : Decidable (iface.Holds ip) :=
  inferInstanceAs (Decidable (∃ cidr ∈ iface.addrs, cidr.address = ip))

def isV4 : IpAddr → Bool
| .v4 _ => true
| .v6 _ => false

def isV6 (ip : IpAddr) : Bool := !isV4 ip

def latest (family : IpAddr → Bool) (spawned : Option IpAddr)
  (addrs : List AssignedAddr) : Option IpAddr :=
  ((addrs.map AssignedAddr.ip).filter family).getLast?.or spawned

def spawnedV4 (a : Addrs) : Option IpAddr := a.1.map fun v4 => .v4 v4.1

def spawnedV6 (a : Addrs) : Option IpAddr := a.2.map fun v6 => .v6 v6.1

def Kept (spawned : Addrs) (addrs : List AssignedAddr) (iface : Interface) : Prop :=
  (∀ ip ∈ latest isV4 (spawnedV4 spawned) addrs, iface.Holds ip) ∧
    ∀ ip ∈ latest isV6 (spawnedV6 spawned) addrs, iface.Holds ip

def HadAddress (family : IpAddr → Bool) (spawned : Option IpAddr)
  (addrs : List AssignedAddr) : Prop :=
  spawned.isSome = true ∨ ∃ a ∈ addrs, family a.ip = true

instance (family : IpAddr → Bool) (spawned : Option IpAddr) (addrs : List AssignedAddr) :
  Decidable (HadAddress family spawned addrs) :=
  inferInstanceAs (Decidable (spawned.isSome = true ∨ ∃ a ∈ addrs, family a.ip = true))

def OneFamily (spawned : Addrs) (addrs : List AssignedAddr) : Prop :=
  addrs = [] ∨
    ¬(HadAddress isV4 (spawnedV4 spawned) addrs ∧ HadAddress isV6 (spawnedV6 spawned) addrs)

lemma latest_eq_none_iff :
  latest family spawned addrs = none ↔ ¬HadAddress family spawned addrs := by
  constructor
  · intro hNone hHad
    rcases or_eq_none_iff.mp hNone with ⟨hAssigned, hSpawned⟩
    have hNil := getLast?_eq_none_iff.mp hAssigned
    rcases hHad with hSome | ⟨a, hMem, hFamily⟩
    · rw [hSpawned] at hSome
      cases hSome
    · exact filter_eq_nil_iff.mp hNil a.ip (List.mem_map_of_mem hMem) hFamily
  · intro hNever
    apply or_eq_none_iff.mpr
    refine ⟨?_, ?_⟩
    · apply getLast?_eq_none_iff.mpr
      apply filter_eq_nil_iff.mpr
      intro ip hMem hFamily
      rcases List.mem_map.mp hMem with ⟨a, hAddr, rfl⟩
      exact hNever (.inr ⟨a, hAddr, hFamily⟩)
    · apply not_isSome_iff_eq_none.mp
      intro hSome
      exact hNever (.inl hSome)

lemma latest_of_getLast (spawned : Option IpAddr) (hLast : addrs.getLast? = some a)
  (hFamily : family a.ip) : latest family spawned addrs = some a.ip := by
  rcases getLast?_eq_some_iff.mp hLast with ⟨front, rfl⟩
  simp [latest, hFamily]

lemma family_of_latest {ip : IpAddr} (hSpawned : ∀ ip ∈ spawned, family ip)
  (hLatest : ip ∈ latest family spawned addrs) : family ip := by
  rcases or_eq_some_iff.mp hLatest with hAssigned | ⟨_, hOld⟩
  · exact (mem_filter.mp (mem_of_getLast? hAssigned)).2
  · exact hSpawned ip hOld

lemma latest_kept_iff (hSpawned : ∀ ip ∈ spawned, family ip)
  (hLast : addrs.getLast? = some a) : (∀ ip ∈ latest family spawned addrs, ip = a.ip) ↔
  family a.ip ∨ ¬HadAddress family spawned addrs := by
  constructor
  · intro hKept
    rw [← latest_eq_none_iff]
    cases hLatest : latest family spawned addrs with
    | none => exact .inr rfl
    | some ip =>
      have hFamily := family_of_latest hSpawned hLatest
      rw [hKept ip hLatest] at hFamily
      exact .inl hFamily
  · rintro (hFamily | hNone) ip hLatest
    · rw [latest_of_getLast spawned hLast hFamily] at hLatest
      exact (Option.some.inj hLatest).symm
    · rw [latest_eq_none_iff.mpr hNone] at hLatest
      cases hLatest

lemma address_of_bridgeCall {cidr : IpCidr}
  (hMem : cidr ∈ addrsOf (bridgeCall a).1 (bridgeCall a).2) : cidr.address = a.ip := by
  rcases a with ⟨ip, prefixLen⟩
  cases ip with
  | v4 =>
    simp only [bridgeCall, addrsOf, map_some, map_none,
      toList_some, toList_none, append_nil, mem_singleton] at hMem
    rw [hMem]
  | v6 =>
    simp only [bridgeCall, addrsOf, map_some, map_none,
      toList_some, toList_none, nil_append, mem_singleton] at hMem
    rw [hMem]

lemma exists_of_bridgeCall (a : AssignedAddr) :
  ∃ cidr ∈ addrsOf (bridgeCall a).1 (bridgeCall a).2, cidr.address = a.ip := by
  rcases a with ⟨ip, prefixLen⟩
  cases ip with
  | v4 | v6 => exact ⟨_, mem_cons_self, rfl⟩

lemma accepted_bridgeCall_iff (a : AssignedAddr) : Accepted (bridgeCall a) ↔ assignable a.ip := by
  constructor
  · intro hAccepted
    rcases exists_of_bridgeCall a with ⟨cidr, hMem, hIp⟩
    rw [← hIp]
    exact hAccepted cidr hMem
  · intro hIp cidr hMem
    rw [address_of_bridgeCall hMem]
    exact hIp

lemma holds_bridgeCall_iff (hAddrs : iface.addrs = addrsOf (bridgeCall a).1 (bridgeCall a).2)
  (ip : IpAddr) : iface.Holds ip ↔ ip = a.ip := by
  rw [Interface.Holds, hAddrs]
  constructor
  · rintro ⟨cidr, hMem, rfl⟩
    exact address_of_bridgeCall hMem
  · rintro rfl
    exact exists_of_bridgeCall a

lemma family_spawnedV4 (spawned : Addrs) : ∀ ip ∈ spawnedV4 spawned, isV4 ip := by
  intro ip hMem
  rcases map_eq_some_iff.mp hMem with ⟨v4, _, rfl⟩
  rfl

lemma family_spawnedV6 (spawned : Addrs) : ∀ ip ∈ spawnedV6 spawned, isV6 ip := by
  intro ip hMem
  rcases map_eq_some_iff.mp hMem with ⟨v6, _, rfl⟩
  rfl

lemma kept_spawned {spawned : Addrs}
  (hAddrs : iface.addrs = addrsOf spawned.1 spawned.2) : Kept spawned [] iface := by
  constructor
  · intro ip hMem
    rcases map_eq_some_iff.mp hMem with ⟨v4, hV4, rfl⟩
    refine ⟨⟨.v4 v4.1, routablePrefixV4 v4.2⟩, ?_, rfl⟩
    rw [hAddrs, addrsOf, hV4]
    exact mem_cons_self
  · intro ip hMem
    rcases map_eq_some_iff.mp hMem with ⟨v6, hV6, rfl⟩
    refine ⟨⟨.v6 v6.1, routablePrefixV6 v6.2⟩, ?_, rfl⟩
    rw [hAddrs, addrsOf, hV6]
    exact mem_append_right _ mem_cons_self

lemma kept_iff_oneFamily {spawned : Addrs} (hSpawn : iface.addrs = addrsOf spawned.1 spawned.2)
  (hApply : applyAll iface (addrs.map bridgeCall) = some iface') :
  Kept spawned addrs iface' ↔ OneFamily spawned addrs := by
  have hAddrs := (addrs_of_applyAll hApply).2
  rw [getLast?_map, hSpawn] at hAddrs
  cases hLast : addrs.getLast? with
  | none =>
    have hNil := getLast?_eq_none_iff.mp hLast
    rw [hLast] at hAddrs
    subst hNil
    exact ⟨fun _ => .inl rfl, fun _ => kept_spawned hAddrs⟩
  | some a =>
    rw [hLast] at hAddrs
    have hMem := mem_of_getLast? hLast
    have hV4 := latest_kept_iff (family_spawnedV4 spawned) hLast
    have hV6 := latest_kept_iff (family_spawnedV6 spawned) hLast
    simp only [Kept, holds_bridgeCall_iff hAddrs, hV4, hV6, OneFamily]
    constructor
    · rintro ⟨hOne, hOther⟩
      refine .inr ?_
      rintro ⟨hHad, hHad'⟩
      rcases hOne with hIs | hNot
      · rcases hOther with hIs' | hNot'
        · simp [isV6, hIs] at hIs'
        · exact hNot' hHad'
      · exact hNot hHad
    · rintro (hNil | hOne)
      · rw [hNil] at hMem
        cases hMem
      · -- the last address is of one of the two families
        cases hIs : isV4 a.ip with
        | true =>
          have hHad : HadAddress isV4 (spawnedV4 spawned) addrs := .inr ⟨a, hMem, hIs⟩
          exact ⟨.inl rfl, .inr fun hHad' => hOne ⟨hHad, hHad'⟩⟩
        | false =>
          have hIs' : isV6 a.ip := by
            rw [isV6, hIs]
            rfl
          have hHad' : HadAddress isV6 (spawnedV6 spawned) addrs := .inr ⟨a, hMem, hIs'⟩
          exact ⟨.inr fun hHad => hOne ⟨hHad, hHad'⟩, .inl hIs'⟩

/-
  The capsules of a session go through the parser, the bridge task and the command loop, between
  any other events of the stack.
-/
theorem kept_of_exec_iff
    (p : Profile)
    (spawned : Addrs)
    (iface : Interface)
    (hSpawn : spawn spawned.1 spawned.2 = some iface)
    (capsules : List (AssignCapsule p.width))
    (reads : List (List Bytes))
    (hCut : reads.flatten.flatten = (capsules.map AssignCapsule.encode).flatten)
    (hCap : CapsuleParser.WithinCap p.width .new (reads.map List.flatten))
    (events : List Event)
    (r : Except Panic NetStack)
    (hExec : Run.exec (step p) (.ok (.fresh iface)) events = some r)
    (hBridge :
      events.filterMap Event.addrs =
        (CapsuleParser.new.assign p.width reads).1.map bridgeCall) :
    (∃ s, r = .ok s ∧ Kept spawned (Masque.assignedBy capsules) s.iface) ↔
      (∀ a ∈ Masque.assignedBy capsules, assignable a.ip = true) ∧
      OneFamily spawned (Masque.assignedBy capsules) := by
  have hAddrs := (accepted_of_applyAddrs hSpawn).2
  have hDone := configured_of_exec (s := .fresh iface) Tables.consistent_empty hExec
  rw [hBridge, assign_capsules p.width capsules reads hCut hCap] at hDone
  constructor
  · rintro ⟨s, rfl, hKept⟩
    refine ⟨?_, (kept_iff_oneFamily hAddrs hDone).mp hKept⟩
    intro a hMem
    have hAccepted := (addrs_of_applyAll hDone).1 (bridgeCall a) (List.mem_map_of_mem hMem)
    exact (accepted_bridgeCall_iff a).mp hAccepted
  · rintro ⟨hAssignable, hOne⟩
    have hAccepted : ∀ c ∈ (assignedBy capsules).map bridgeCall, Accepted c := by
      intro c hMem
      rcases List.mem_map.mp hMem with ⟨a, hAssigned, rfl⟩
      exact (accepted_bridgeCall_iff a).mpr (hAssignable a hAssigned)
    rcases applyAll_isSome iface hAccepted with ⟨iface', hSome⟩
    cases r with
    | error =>
      have hNone : applyAll iface _ = none := hDone
      rw [hSome] at hNone
      cases hNone
    | ok s => exact ⟨s, rfl, (kept_iff_oneFamily hAddrs hDone).mpr hOne⟩

def assignV4 : Bytes := [0, 4, 172, 16, 0, 2, 32]

def assignV6 : Bytes := [0, 6, 0x26, 0x06, 0x47, 0, 0x01, 0x10, 0, 0, 0, 0, 0, 0, 0, 0, 0, 2, 128]

def entryV4 : Masque.AssignedAddress := ⟨0, 4, [172, 16, 0, 2], 32⟩

def entryV6 : Masque.AssignedAddress := ⟨0, 6,
  [0x26, 0x06, 0x47, 0, 0x01, 0x10, 0, 0, 0, 0, 0, 0, 0, 0, 0, 2], 128⟩

lemma parse_assignV4 : parseAddressAssign assignV4 = .ok [entryV4] := by
  have hRead : readAssignedAddress (.withSlice assignV4) = .ok (entryV4, ⟨[], 7⟩) := rfl
  rw [parseAddressAssign, readEntries_of_ok [] hRead]
  exact readEntries_of_empty _ rfl

lemma parse_assignBoth :
  parseAddressAssign (assignV4 ++ assignV6) = .ok [entryV4, entryV6] := by
  have hFirst : readAssignedAddress (.withSlice (assignV4 ++ assignV6)) =
    .ok (entryV4, ⟨assignV6, 7⟩) := rfl
  have hSecond : readAssignedAddress ⟨assignV6, 7⟩ = .ok (entryV6, ⟨[], 26⟩) := rfl
  rw [parseAddressAssign, readEntries_of_ok [] hFirst,
    readEntries_of_ok _ hSecond]
  exact readEntries_of_empty _ rfl

lemma capsuleAddressAssign_lt : Masque.capsuleAddressAssign < VarintWidth.one.bound := by decide

def capsuleV4 : AssignCapsule .w64 where
  kind := Masque.capsuleAddressAssign
  kindWidth := .one
  value := assignV4
  lenWidth := .one
  kind_lt := capsuleAddressAssign_lt
  length_lt := by decide
  value_fits := by decide
  addrs := [entryV4]
  decodes := by
    simp only [Masque.WireCapsule.outcome, Masque.decodeValue, if_true, parse_assignV4]
    rfl

def capsuleBoth : AssignCapsule .w64 where
  kind := Masque.capsuleAddressAssign
  kindWidth := .one
  value := assignV4 ++ assignV6
  lenWidth := .one
  kind_lt := capsuleAddressAssign_lt
  length_lt := by decide
  value_fits := by decide
  addrs := [entryV4, entryV6]
  decodes := by
    simp only [Masque.WireCapsule.outcome, Masque.decodeValue, if_true, parse_assignBoth]
    rfl

def bridgeEvents (addrs : List AssignedAddr) : List Event := addrs.map fun a =>
  .cmd (.setAddrs (bridgeCall a).1 (bridgeCall a).2) ⟨true, 0⟩

lemma addrs_bridgeEvents (addrs : List AssignedAddr) :
  (bridgeEvents addrs).filterMap Event.addrs = addrs.map bridgeCall := by
  simp [bridgeEvents, filterMap_map, Function.comp_def, Event.addrs]

def identityAddrs : Addrs := (some (⟨172, 16, 0, 2⟩, 32), some (⟨2⟩, 128))

def onlyV4 : Addrs := (some (⟨172, 16, 0, 2⟩, 32), none)

def ifaceOf (a : Addrs) : Interface where
  addrs := addrsOf a.1 a.2
  gatewayV4 := a.1.map fun v4 => gatewayOfV4 v4.1
  gatewayV6 := a.2.map fun v6 => gatewayOfV6 v6.1

/- A session that only ever has an IPv4 address. -/
theorem kept_of_exec_iff_onlyV4 : ∃ s, Run.exec (step ⟨.w64, .low⟩)
  (.ok (.fresh (ifaceOf onlyV4))) (bridgeEvents (Masque.assignedBy [capsuleV4])) = some (.ok s) ∧
  Kept onlyV4 (Masque.assignedBy [capsuleV4]) s.iface := by
  have hAssign := assign_capsules .w64 [capsuleV4] [[capsuleV4.encode]] rfl
    (withinCap_of_length_le _ _ _ (by decide))
  have hExec : Run.exec (step ⟨.w64, .low⟩) (.ok (.fresh (ifaceOf onlyV4)))
    (bridgeEvents (assignedBy [capsuleV4])) = some (.ok (.fresh (ifaceOf onlyV4))) := rfl
  have hKept := (kept_of_exec_iff ⟨.w64, .low⟩ onlyV4 (ifaceOf onlyV4) rfl
    [capsuleV4] [[capsuleV4.encode]] rfl
    (withinCap_of_length_le _ _ _ (by decide))
    _ _ hExec
    (by rw [addrs_bridgeEvents, hAssign])).mpr
    ⟨by decide, .inr (by decide)⟩
  rcases hKept with ⟨s, hSame, hHolds⟩
  exact ⟨s, by rw [hExec, hSame], hHolds⟩

/-
  One capsule with an address of each family: the bridge task sends two commands, and the second
  one leaves the interface without an IPv4 address.
-/
theorem v4_removed_by_v6 : spawn identityAddrs.1 identityAddrs.2 = some (ifaceOf identityAddrs) ∧
  (CapsuleParser.new.assign .w64 [[capsuleBoth.encode]]).1 = Masque.assignedBy [capsuleBoth] ∧
  ∃ s, Run.exec (step ⟨.w64, .low⟩) (.ok (.fresh (ifaceOf identityAddrs)))
  (bridgeEvents (Masque.assignedBy [capsuleBoth])) = some (.ok s) ∧
  ¬Kept identityAddrs (Masque.assignedBy [capsuleBoth]) s.iface := by
  have hAssign := assign_capsules .w64 [capsuleBoth] [[capsuleBoth.encode]] rfl
    (withinCap_of_length_le _ _ _ (by decide))
  refine ⟨rfl, by rw [hAssign], _, rfl, ?_⟩
  rintro ⟨hV4, _⟩
  exact absurd (hV4 (.v4 ⟨172, 16, 0, 2⟩) rfl) (by decide)

end Kourosh.Netstack
