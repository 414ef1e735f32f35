import Mathlib.Data.List.AList

/-
  The race between nodes.

  A slice of the pool is probed through local listeners.

  Correctness is proven by:
    * `attributed_iff_no_anytls`
-/

-- Nodes

namespace Kourosh.Shard

open List
open Option

inductive NodeProtocol where
  | vless
  | trojan
  | anytls
deriving DecidableEq

/- `ShardNode`; two nodes are equal if all fields are. -/
structure Node where
  protocol : NodeProtocol
  credential : String
  address : String
  port : Nat
  network : String
  security : String
  path : String
  host : String
  serverName : String
  fingerprint : String
  cipherSuites : String
  finalMask : String
  alpn : String
  label : String
deriving DecidableEq

def Node.isAnytls (node : Node) : Bool := decide (node.protocol = .anytls)

def probeBasePort : Nat := 21100

def anytlsProbeBasePort : Nat := 21200

def raceWidth : Nat := 12

-- Ports

abbrev PortMap := AList fun _ : Node => Nat

def number (basePort : Nat) (nodes : List Node) : PortMap :=
  nodes.zipIdx.foldl (fun ports entry => ports.insert entry.1 (basePort + entry.2)) ∅

def portOf (candidates : List Node) : PortMap := number probeBasePort candidates

-- The Two Probe Processes

/- `in-i` and `out-i` are known by their number. -/
structure ProbeInbound where
  tag : Nat
  port : Nat

structure ProbeOutbound where
  tag : Option Nat
  node : Option Node

structure ProbeRule where
  inboundTag : Nat
  outboundTag : Nat

structure ProbeConfig where
  inbounds : List ProbeInbound
  outbounds : List ProbeOutbound
  rules : List ProbeRule

def probeConfig (nodes : List Node) (basePort : Nat) : ProbeConfig where
  inbounds := nodes.zipIdx.map fun entry => ⟨entry.2, basePort + entry.2⟩
  outbounds := ⟨none, none⟩ :: nodes.zipIdx.map fun entry => ⟨some entry.2, some entry.1⟩
  rules := nodes.zipIdx.map fun entry => ⟨entry.2, entry.2⟩

/-
  The node that carries a request to a port: the inbound's rule names the outbound, and without
  one the first outbound takes the request.
-/
def ProbeConfig.carrier (config : ProbeConfig) (port : Nat) : Option Node :=
  match config.inbounds.find? (·.port = port) with
  | none => none
  | some inbound =>
    match config.rules.find? (·.inboundTag = inbound.tag) with
    | none => config.outbounds.head?.bind ProbeOutbound.node
    | some rule =>
      (config.outbounds.find? (·.tag = some rule.outboundTag)).bind ProbeOutbound.node

structure AnytlsServer where
  listen : Nat
  node : Node

def renderProbe (nodes : List Node) (probePorts : PortMap) : List AnytlsServer :=
  nodes.map fun node => ⟨(probePorts.lookup node).getD 0, node⟩

def anytlsCarrier (servers : List AnytlsServer) (port : Nat) : Option Node :=
  (servers.find? (·.listen = port)).map AnytlsServer.node

-- The Race

structure Conditions where
  xrayStarts : Bool
  anytlsStarts : Bool
  -- the first port of each block came up in time
  ready : Bool
  -- probes as they end: a position of the slice, and whether
  -- a request through the outbound gets its answer
  ended : List (Nat × Bool)

structure Probe where
  node : Node
  port : Nat
  carrier : Option Node
  ok : Bool
deriving DecidableEq

structure RaceResult where
  winner : Option Node
  probes : List Probe

def xrayCandidates (candidates : List Node) : List Node :=
  candidates.filter fun node => !node.isAnytls

def anytlsCandidates (candidates : List Node) : List Node := candidates.filter Node.isAnytls

def xrayLaunched (candidates : List Node) (conditions : Conditions) : Bool :=
  !(xrayCandidates candidates).isEmpty && conditions.xrayStarts

def anytlsLaunched (candidates : List Node) (conditions : Conditions) : Bool :=
  !(anytlsCandidates candidates).isEmpty && conditions.anytlsStarts

def carrier (candidates : List Node) (conditions : Conditions) (port : Nat) : Option Node :=
  let xray :=
    if xrayLaunched candidates conditions then
      (probeConfig (xrayCandidates candidates) probeBasePort).carrier port
    else none
  let anytls :=
    if anytlsLaunched candidates conditions then
      anytlsCarrier (renderProbe (anytlsCandidates candidates)
        (number anytlsProbeBasePort (anytlsCandidates candidates)))
        port
    else none
  xray.or anytls

def probe (candidates : List Node) (conditions : Conditions) (ended : Nat × Bool) : Option Probe :=
  match candidates[ended.1]? with
  | none => none
  | some node =>
    ((portOf candidates).lookup node).map fun port =>
      let served := carrier candidates conditions port
      ⟨node, port, served, ended.2 && served.isSome⟩

def judge (probes : List Probe) : RaceResult where
  winner := (probes.find? Probe.ok).map Probe.node
  probes := probes

def race (candidates : List Node) (conditions : Conditions) : RaceResult :=
  if candidates.isEmpty then ⟨none, []⟩
  else if !xrayLaunched candidates conditions &&
    !anytlsLaunched candidates conditions then ⟨none, []⟩
  else if !conditions.ready then ⟨none, []⟩
  else judge (conditions.ended.filterMap (probe candidates conditions))

def RaceResult.recorded (result : RaceResult) : List (Node × Bool) :=
  result.probes.map fun probe => (probe.node, probe.ok)

/- Every probe is carried by the node it is for. -/
def Attributed (result : RaceResult) : Prop := (∀ probe ∈ result.probes,
      probe.carrier = some probe.node) ∧
    (∀ node, result.winner = some node →
      ∃ probe ∈ result.probes, probe.ok = true ∧ probe.node = node ∧ probe.carrier = some node) ∧
    ∀ entry ∈ result.recorded, ∃ probe ∈ result.probes,
      probe.ok = entry.2 ∧ probe.carrier = some entry.1

-- Who Is Behind A Port

lemma find?_zipIdx {α : Type} (l : List α) (start i : Nat) :
  (l.zipIdx start).find? (·.2 = start + i) = l[i]?.map fun a => (a, start + i) := by
  induction l generalizing start i with
  | nil => rfl
  | cons a l ih =>
    cases i with
    | zero => simp
    | succ i =>
      have hNext : start + (i + 1) = start + 1 + i := by omega
      simp only [zipIdx_cons, getElem?_cons_succ]
      rw [find?_cons_of_neg (by simp), hNext]
      exact ih (start + 1) i

lemma carrier_probeConfig (nodes : List Node) (basePort i : Nat) :
  (probeConfig nodes basePort).carrier (basePort + i) = nodes[i]? := by
  have hNumber := find?_zipIdx nodes 0 i
  simp only [Nat.zero_add] at hNumber
  unfold ProbeConfig.carrier
  simp only [probeConfig, find?_map, Function.comp_def, Nat.add_left_cancel_iff]
  rw [hNumber]
  cases hNode : nodes[i]? with
  | none => rfl
  | some =>
    rw [hNode] at hNumber
    simp [find?_map, Function.comp_def, hNumber]

variable {basePort i port start : Nat} {candidates nodes : List Node}
variable {ports : PortMap} {node : Node} {conditions : Conditions}

lemma lookup_foldl_insert (hPort : ((nodes.zipIdx start).foldl (fun ports entry =>
  ports.insert entry.1 (basePort + entry.2)) ports).lookup node = some port) :
  ports.lookup node = some port ∨ ∃ i, nodes[i]? = some node ∧ port = basePort + (start + i) := by
  induction nodes generalizing start ports with
  | nil => exact .inl hPort
  | cons first _ ih =>
    rw [zipIdx_cons, foldl_cons] at hPort
    rcases ih hPort with hInserted | ⟨i, hNode, hEq⟩
    · by_cases hSame : node = first
      · subst hSame
        rw [AList.lookup_insert] at hInserted
        cases hInserted
        exact .inr ⟨0, rfl, rfl⟩
      · rw [AList.lookup_insert_ne hSame] at hInserted
        exact .inl hInserted
    · refine .inr ⟨i + 1, ?_, ?_⟩
      · simpa using hNode
      · rw [hEq]
        omega

lemma mem_foldl_insert (hMem : node ∈ ports ∨ node ∈ nodes) : node ∈ (nodes.zipIdx start).foldl
  (fun ports entry => ports.insert entry.1 (basePort + entry.2)) ports := by
  induction nodes generalizing start ports with
  | nil =>
    rcases hMem with hOld | hNone
    · exact hOld
    · cases hNone
  | cons _ _ ih =>
    rw [zipIdx_cons, foldl_cons]
    apply ih
    rw [AList.mem_insert]
    rcases hMem with hOld | hNew
    · exact .inl (.inr hOld)
    · rcases mem_cons.mp hNew with hFirst | hRest
      · exact .inl (.inl hFirst)
      · exact .inr hRest

/- The number of a node is a position it has in the list. -/
lemma exists_of_lookup_number (hPort : (number basePort nodes).lookup node = some port) :
  ∃ i, nodes[i]? = some node ∧ port = basePort + i := by
  rcases lookup_foldl_insert hPort with hEmpty | ⟨i, hNode, hEq⟩
  · simp at hEmpty
  · exact ⟨i, hNode, by simpa using hEq⟩

lemma exists_lookup_number (basePort : Nat) (hMem : node ∈ nodes) :
  ∃ port, (number basePort nodes).lookup node = some port :=
  isSome_iff_exists.mp (AList.lookup_isSome.mpr (mem_foldl_insert (.inr hMem)))

lemma le_of_anytlsCarrier
  (hCarrier : anytlsCarrier (renderProbe nodes (number basePort nodes)) port = some node) :
  basePort ≤ port := by
  rcases map_eq_some_iff.mp hCarrier with ⟨server, hFind, _⟩
  have hListen : server.listen = port := by simpa using find?_some hFind
  rcases mem_map.mp (mem_of_find?_eq_some hFind) with ⟨other, hOther, rfl⟩
  rcases exists_lookup_number basePort hOther with ⟨number, hNumber⟩
  rcases exists_of_lookup_number hNumber with ⟨i, _, _⟩
  simp only [hNumber, getD_some] at hListen
  omega

-- Attribution

lemma exists_of_probe {ended : Nat × Bool} {result : Probe}
  (hProbe : probe candidates conditions ended = some result) : ∃ i, candidates[i]? =
  some result.node ∧ result.carrier = carrier candidates conditions (probeBasePort + i) := by
  unfold probe at hProbe
  cases hNode : candidates[ended.1]? with
  | none => simp [hNode] at hProbe
  | some =>
    rw [hNode] at hProbe
    rcases map_eq_some_iff.mp hProbe with ⟨port, hPort, rfl⟩
    rcases exists_of_lookup_number hPort with ⟨i, hAt, hEq⟩
    exact ⟨i, hAt, by rw [hEq]⟩

lemma carrier_of_no_anytls (hXray : ∀ node ∈ candidates, node.isAnytls = false)
  (hLaunched : xrayLaunched candidates conditions) (hNode : candidates[i]? = some node) :
  carrier candidates conditions (probeBasePort + i) = some node := by
  have hAll : xrayCandidates candidates = candidates := by
    rw [xrayCandidates, filter_eq_self]
    intro other hMem
    simp [hXray other hMem]
  rw [carrier, hLaunched, if_pos rfl, hAll, carrier_probeConfig, hNode, some_or]

lemma carrier_ne_of_anytls (hWidth : i < raceWidth) (hAnytls : node.isAnytls) :
  carrier candidates conditions (probeBasePort + i) ≠ some node := by
  intro hCarrier
  rcases or_eq_some_iff.mp hCarrier with hXray | ⟨_, hSidecar⟩
  · split at hXray
    · rw [carrier_probeConfig] at hXray
      have hMem := mem_of_getElem? hXray
      simp [xrayCandidates, hAnytls] at hMem
    · cases hXray
  · split at hSidecar
    · have hBlock := le_of_anytlsCarrier hSidecar
      simp only [anytlsProbeBasePort, probeBasePort, raceWidth] at hBlock hWidth
      omega
    · cases hSidecar

lemma race_cases (candidates : List Node) (conditions : Conditions) :
  race candidates conditions = judge [] ∨ ((xrayLaunched candidates conditions ∨
  anytlsLaunched candidates conditions) ∧ race candidates conditions =
  judge (conditions.ended.filterMap (probe candidates conditions))) := by
  unfold race
  split
  · exact .inl rfl
  split
  · exact .inl rfl
  next hLaunched =>
    split
    · exact .inl rfl
    · refine .inr ⟨?_, rfl⟩
      simpa [or_iff_not_imp_left] using hLaunched

lemma attributed_judge {probes : List Probe}
  (hProbes : ∀ probe ∈ probes, probe.carrier = some probe.node) : Attributed (judge probes) := by
  refine ⟨hProbes, ?_, ?_⟩
  · intro node hWinner
    rcases map_eq_some_iff.mp hWinner with ⟨probe, hFind, rfl⟩
    have hMem := mem_of_find?_eq_some hFind
    exact ⟨probe, hMem, find?_some hFind, rfl, hProbes probe hMem⟩
  · intro entry hEntry
    rcases mem_map.mp hEntry with ⟨probe, hMem, rfl⟩
    exact ⟨probe, hMem, rfl, hProbes probe hMem⟩

lemma attributed_of_no_anytls (hXray : ∀ node ∈ candidates, node.isAnytls = false)
  (conditions : Conditions) : Attributed (race candidates conditions) := by
  have hNoSidecar : anytlsLaunched candidates conditions = false := by
    have hNone : anytlsCandidates candidates = [] := by
      rw [anytlsCandidates, filter_eq_nil_iff]
      intro node hNode
      simp [hXray node hNode]
    simp [anytlsLaunched, hNone]
  rcases race_cases candidates conditions with hEarly | ⟨hLaunched, hRace⟩
  · rw [hEarly]
    exact attributed_judge (by simp)
  · rw [hRace]
    apply attributed_judge
    intro result hMem
    rcases mem_filterMap.mp hMem with ⟨ended, _, hProbe⟩
    rcases exists_of_probe hProbe with ⟨i, hAt, hCarrier⟩
    rw [hCarrier]
    exact carrier_of_no_anytls hXray (by simpa [hNoSidecar] using hLaunched) hAt

lemma not_attributed_of_anytls (hWidth : candidates.length ≤ raceWidth) (hMem : node ∈ candidates)
  (hAnytls : node.isAnytls) : ∃ conditions, ¬ Attributed (race candidates conditions) := by
  rcases mem_iff_getElem?.mp hMem with ⟨k, hNode⟩
  -- both processes start, and the probe of this node ends
  refine ⟨⟨true, true, true, [(k, true)]⟩, ?_⟩
  intro hAttributed
  rcases exists_lookup_number probeBasePort hMem with ⟨port, hPort⟩
  rcases exists_of_lookup_number hPort with ⟨i, hAt, hEq⟩
  have hShort : i < raceWidth := by
    have hLength := (List.getElem?_eq_some_iff.mp hAt).1
    omega
  have hLaunched : anytlsLaunched candidates ⟨true, true, true, [(k, true)]⟩ := by
    have hSome : anytlsCandidates candidates ≠ [] := ne_nil_of_mem (mem_filter.mpr ⟨hMem, hAnytls⟩)
    simp [anytlsLaunched, hSome]
  have hSlice : candidates ≠ [] := ne_nil_of_mem hMem
  have hCarrier := hAttributed.1
  simp only [race, hLaunched, hSlice, judge, probe, hNode,
    portOf, hPort, filterMap_cons, List.isEmpty_iff, Bool.not_true, Bool.and_false, if_false,
    map_some, Bool.false_eq_true, filterMap_nil, forall_mem_singleton] at hCarrier
  rw [hEq] at hCarrier
  exact carrier_ne_of_anytls hShort hAnytls hCarrier

/-
  Whatever starts and whatever is answered, the race credits the right nodes exactly if its slice
  has no anytls node.
-/
theorem attributed_iff_no_anytls
    (candidates : List Node)
    (hWidth : candidates.length ≤ raceWidth) :
    (∀ conditions, Attributed (race candidates conditions)) ↔
      ∀ node ∈ candidates, node.isAnytls = false := by
  refine ⟨?_, attributed_of_no_anytls⟩
  intro hAll node hMem
  rw [← Bool.not_eq_true]
  intro hAnytls
  rcases not_attributed_of_anytls hWidth hMem hAnytls with ⟨conditions, hNot⟩
  exact hNot (hAll conditions)

def sampleNode (protocol : NodeProtocol) (address : String) : Node :=
  ⟨protocol, "", address, 443, "ws", "tls", "/", "", "", "", "", "", "", ""⟩

/- The second node's probe fails before the first one's is answered. -/
theorem attributed_of_two_nodes :
    Attributed (race [sampleNode .vless "192.0.2.1", sampleNode .trojan "192.0.2.2"]
      ⟨true, true, true, [(1, false), (0, true)]⟩) :=
  (attributed_iff_no_anytls _ (by decide)).mpr (by decide) _

/- An anytls node before one for xray: it wins the race with the answer that the other node got. -/
theorem anytls_wins_with_other_answer : ¬ ∀ candidates : List Node, candidates.length ≤ raceWidth →
  ∀ conditions, Attributed (race candidates conditions) := by
  intro hAll
  let first := sampleNode .anytls "192.0.2.1"
  let second := sampleNode .vless "192.0.2.2"
  let conditions : Conditions := ⟨true, true, true, [(0, true)]⟩
  have hRace : (race [first, second] conditions).winner = some first ∧
    (race [first, second] conditions).probes = [⟨first, 21100, some second, true⟩] := by
    decide +kernel
  have hCarrier := (hAll [first, second] (by decide) conditions).1
  rw [hRace.2, forall_mem_singleton] at hCarrier
  revert hCarrier
  decide +kernel

end Kourosh.Shard
