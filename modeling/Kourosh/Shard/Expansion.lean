import Kourosh.Lib.Distinct
import Kourosh.Shard.Edges
import Kourosh.Shard.Race
import Mathlib.Data.List.Rotate

/-
  The paths of the pool.

  A node behind the CDN is tried through every edge.

  Correctness is proven by:
    * `expansion_is_complete`
    * `path_count_is_exact_iff`
-/

-- Keys

namespace Kourosh.Shard

open List
open Distinct

def NodeProtocol.text : NodeProtocol → Text
| .vless => "vless".toList
| .trojan => "trojan".toList
| .anytls => "anytls".toList

def barred (fields : List Text) : Text := ['|'].intercalate fields

def Node.keyText (node : Node) : Text :=
  barred [node.protocol.text, node.credential.toList, node.address.toList,
    Nat.toDigits 10 node.port, node.network.toList, node.security.toList, node.path.toList,
    node.host.toList]

-- Variants

def cdnPorts : List Nat :=
  [80, 8080, 8880, 2052, 2082, 2086, 2095, 443, 2053, 2083, 2087, 2096, 8443]

def isExpandable (node : Node) : Bool :=
  !node.host.toList.all Jvm.isWhitespace && cdnPorts.contains node.port &&
    isCloudflareAddress node.address.toList

def addresses (edges : List String) (node : Node) : List String :=
  node.address :: edges.filter (· ≠ node.address)

/- A copy with the same address is the node itself. -/
def Node.copy (node : Node) (address : String) : Node := { node with address := address }

def variants (edges : List String) (index : Nat) (node : Node) : List Node :=
  if isExpandable node then
    let count := (addresses edges node).length
    (range count).map fun step =>
      node.copy ((addresses edges node).getD ((index % count + step) % count) node.address)
  else [node]

def allVariants (edges : List String) (nodes : List Node) : List Node :=
  nodes.zipIdx.flatMap fun entry => variants edges entry.2 entry.1

def expand (customIp : Bool) (edges : List String) (nodes : List Node) : List Node :=
  firsts Node.keyText [] (if customIp then nodes else allVariants edges nodes)

variable {edges : List String} {nodes : List Node} {node variant : Node} {index : Nat}

lemma variants_eq_rotate (hNode : isExpandable node) : variants edges index node =
  ((addresses edges node).rotate (index % (addresses edges node).length)).map node.copy := by
  rw [variants, if_pos hNode]
  refine ext_getElem (by simp) fun step hLeft hRight => ?_
  have hPos : 0 < (addresses edges node).length := Nat.succ_pos _
  rw [getElem_map, getElem_map, getElem_rotate, getElem_range, Nat.add_comm,
    getD_eq_getElem _ _ (Nat.mod_lt _ hPos)]

def pathsPerNode (customIp : Bool) (edges : List String) : Nat :=
  if customIp then 1 else edges.length + 1

def cachedPathCount (customIp : Bool) (edges : List String) (cachedCount : Nat) : Nat :=
  if cachedCount = 0 then 0
  else if pathsPerNode customIp edges = 0 then cachedCount
  else cachedCount * pathsPerNode customIp edges

lemma cachedPathCount_eq (customIp : Bool) (count : Nat) :
  cachedPathCount customIp edges count = count * pathsPerNode customIp edges := by
  have hPos : pathsPerNode customIp edges ≠ 0 := by
    cases customIp with
    | false | true => exact Nat.succ_ne_zero _
  rw [cachedPathCount, if_neg hPos]
  split
  next hNone => rw [hNone, Nat.zero_mul]
  next => rfl

lemma length_variants_le : (variants edges index node).length ≤ edges.length + 1 := by
  unfold variants
  split
  next => simpa [addresses] using length_filter_le _ edges
  next => simp

lemma length_variants_eq_iff : (variants edges index node).length = edges.length + 1 ↔
  (edges ≠ [] → isExpandable node ∧ node.address ∉ edges) := by
  by_cases hNode : isExpandable node
  · rw [variants_eq_rotate hNode, length_map, length_rotate, addresses, length_cons,
      Nat.add_right_cancel_iff, length_filter_eq_length_iff]
    simp only [decide_eq_true_eq, hNode, true_and]
    constructor
    · exact fun hAll _ hMem => hAll _ hMem rfl
    · rintro hOwn edge hEdge rfl
      exact hOwn (ne_nil_of_mem hEdge) hEdge
  · simp [variants, hNode]

lemma length_flatMap_eq_iff {α β : Type} {n : Nat} (xs : List α) {f : α → List β}
  (hLe : ∀ x, (f x).length ≤ n) : (xs.flatMap f).length ≤ xs.length * n ∧
    ((xs.flatMap f).length = xs.length * n ↔ ∀ x ∈ xs, (f x).length = n) := by
  induction xs with
  | nil => simp
  | cons x xs ih =>
    have hFirst := hLe x
    rw [flatMap_cons, length_append, length_cons, Nat.succ_mul, forall_mem_cons, ← ih.2]
    omega

lemma length_allVariants (edges : List String) (nodes : List Node) :
  (allVariants edges nodes).length ≤ nodes.length * (edges.length + 1) ∧
    ((allVariants edges nodes).length = nodes.length * (edges.length + 1) ↔
      ∀ node ∈ nodes, edges ≠ [] → isExpandable node ∧ node.address ∉ edges) := by
  have hBound := length_flatMap_eq_iff nodes.zipIdx
    (f := fun entry => variants edges entry.2 entry.1) fun _ => length_variants_le
  simp only [length_zipIdx, length_variants_eq_iff] at hBound
  refine ⟨hBound.1, hBound.2.trans ?_⟩
  conv_rhs => rw [← zipIdx_map_fst 0 nodes, forall_mem_map]

/-
  The number shown is right with an address of the user. Otherwise every node has to be expandable
  and away from the edges, and no two variants may have one key.
-/
theorem path_count_is_exact_iff
    (customIp : Bool)
    (edges : List String)
    (hKeys : (nodes.map Node.keyText).Nodup) :
    cachedPathCount customIp edges nodes.length = (expand customIp edges nodes).length ↔
      customIp = true ∨
      (∀ node ∈ nodes, edges ≠ [] → isExpandable node = true ∧ node.address ∉ edges) ∧
      ((allVariants edges nodes).map Node.keyText).Nodup := by
  rw [cachedPathCount_eq]
  cases customIp with
  | true =>
    refine iff_of_true ?_ (.inl rfl)
    rw [pathsPerNode, if_pos rfl, Nat.mul_one, expand, if_pos rfl]
    exact (length_firsts_eq_iff.mpr hKeys).symm
  | false =>
    rw [pathsPerNode, if_neg Bool.false_ne_true, expand, if_neg Bool.false_ne_true]
    have hLe := @length_firsts_le _ _ _ Node.keyText (allVariants edges nodes)
    have hBound := length_allVariants edges nodes
    rw [← length_firsts_eq_iff, ← hBound.2]
    simp only [Bool.false_eq_true, false_or]
    omega

def edgeNode : Node := { sampleNode .vless "104.16.0.1" with port := 443, host := "a.example" }

def otherEdgeNode : Node := { edgeNode with host := "b.example" }

theorem path_count_of_two_nodes :
    cachedPathCount false ["104.16.0.2", "104.16.0.3"] 2 =
      (expand false ["104.16.0.2", "104.16.0.3"] [edgeNode, otherEdgeNode]).length :=
  (@path_count_is_exact_iff [edgeNode, otherEdgeNode] false ["104.16.0.2", "104.16.0.3"]
    (by decide +kernel)).mpr (.inr (by decide +kernel))

/- The address of the node is one of the edges. -/
theorem path_count_is_too_large : ([edgeNode].map Node.keyText).Nodup ∧
  cachedPathCount false ["104.16.0.1"] [edgeNode].length ≠
    (expand false ["104.16.0.1"] [edgeNode]).length := by decide +kernel

end Kourosh.Shard
