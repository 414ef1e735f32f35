import Kourosh.Shard.Expansion
import Kourosh.Shard.Fallback
import Mathlib.Data.List.Sort

/-
  The node a rotation ends with.

  A failure is recorded for the active node, and the pool is ranked and raced again with that node
  in it.

  Main declarations
    * `rank`, `diversify`, `ranking` : the order in which the pool is raced
    * `Call.AnsweredFirst` : a node's probe is the first of the race to be answered

  Correctness is proven by:
    * `candidates_take_turns`
    * `rotation_leaves_failed_node_iff`
-/

-- Ranking

namespace Kourosh.Shard

open List
open Distinct

structure Score where
  latencyMs : Int
  streak : Int
  failures : Int
  kbps : Int

def failureTolerance : Int := 2

namespace Score

def everWorked (score : Score) : Bool := 0 < score.latencyMs

def throughputBonus (score : Score) : Int :=
  if score.kbps ≤ 0 then 0 else min (score.kbps / 1000) 30 * 50

def rank (score : Score) : Int :=
  if score.failures ≥ failureTolerance then 900000 + score.latencyMs
  else if !score.everWorked then 500000
  else score.latencyMs - min score.streak 5 * 500 - score.throughputBonus

end Score

structure Key where
  protocol : NodeProtocol
  credential : String
  address : String
  port : Nat
  network : String
  security : String
  path : String
  host : String
deriving DecidableEq

def Node.key (node : Node) : Key :=
  ⟨node.protocol, node.credential, node.address, node.port, node.network, node.security, node.path,
    node.host⟩

def recordFailure (health : Key → Score) (node : Node) : Key → Score :=
  let previous := health node.key
  Function.update health node.key ⟨previous.latencyMs, 0, previous.failures + 1, previous.kbps⟩

/- `ShardHealth.rank`, a stable sort. -/
def rank (health : Key → Score) (nodes : List Node) : List Node :=
  nodes.insertionSort fun a b => (health a.key).rank ≤ (health b.key).rank

/- An endpoint, whatever the address. -/
def Node.identity (node : Node) : Text :=
  barred [node.protocol.text, node.credential.toList, node.host.toList, node.path.toList,
    Nat.toDigits 10 node.port]

def endpoints (ranked : List Node) : List Text := firsts id [] (ranked.map Node.identity)

def groups (ranked : List Node) : List (List Node) :=
  (endpoints ranked).map fun identity => ranked.filter (·.identity = identity)

/- The loop, with `fuel` no less than the rounds it can take. -/
def turns (groups : List (List Node)) (size : Nat) : Nat → Nat → List Node → List Node
| 0, _, out => out
| fuel + 1, round, out =>
  if out.length < size then
    let added := groups.filterMap (·[round]?)
    if added.isEmpty then out else turns groups size fuel (round + 1) (out ++ added)
  else out

def diversify (ranked : List Node) : List Node :=
  turns (groups ranked) ranked.length ranked.length 0 []

def ranking (health : Key → Score) (active : Option Node) (pool : List Node) : List Node :=
  diversify (rank (active.elim health (recordFailure health)) pool)

def Call.slice (call : Call) (slice : Nat) : List Node :=
  (call.ranked.drop (slice * raceWidth)).take raceWidth

/- The nodes of a slice whose probes are answered, in the order in which the probes end. -/
def Call.answers (call : Call) (slice : Nat) : List Node :=
  let candidates := call.slice slice
  let conditions := call.conditions slice
  if (xrayLaunched candidates conditions || anytlsLaunched candidates conditions) &&
    conditions.ready && !call.interrupted slice then
    ((conditions.ended.filterMap (probe candidates conditions)).filter Probe.ok).map Probe.node
  else []

def Call.AnsweredFirst (call : Call) (node : Node) : Prop :=
  ∃ slice < maxRaceSlices, (call.answers slice).head? = some node ∧
    ∀ earlier < slice, call.answers earlier = []

-- Who Is Active

def Elects (Ok : Node → Prop) (program : Program) : Prop :=
  ∀ s, (play program s).returned = some true →
    ∃ node, (play program s).activeNode = some node ∧ Ok node

variable {Ok : Node → Prop} {act : Act} {next : Program} {engine : Engine} {call : Call}
variable {winner : Node}

lemma elects_act {next : Nat → Program} (hNext : ∀ value, Elects Ok (next value)) :
  Elects Ok (.act act next) := fun s => hNext _ (act.exec s).2

lemma elects_perform (hNext : Elects Ok next) : Elects Ok (perform act next) :=
  elects_act fun _ => hNext

lemma elects_ask {next : Bool → Program} (hNext : ∀ value, Elects Ok (next value)) :
  Elects Ok (ask act next) := elects_act fun _ => hNext _

lemma elects_captured {next : Option Nat → Program} (hNext : ∀ process, Elects Ok (next process)) :
  Elects Ok (captured engine next) := elects_act fun _ => hNext _

lemma elects_fork {role : Role} {job : Program} (hNext : Elects Ok next) :
  Elects Ok (.fork role job next) := hNext

lemma elects_fail : Elects Ok (finish false) := by
  intro s hTrue
  cases hTrue

lemma elects_cancel : Elects Ok cancel := elects_perform elects_fail

lemma elects_active (hWinner : Ok winner) :
  Elects Ok (perform (.setActive (some winner)) (finish true)) :=
  fun _ _ => ⟨winner, rfl, hWinner⟩

section

variable (hNext : Elects Ok next)

include hNext

lemma elects_stopSidecar : Elects Ok (stopSidecar next) :=
  elects_perform (elects_captured fun _ => elects_fork hNext)

lemma elects_stop : Elects Ok (stop next) :=
  elects_perform (elects_stopSidecar (elects_perform (elects_act fun _ =>
    elects_captured fun _ => elects_fork hNext)))

end

lemma elects_launch {starts : Bool} {config : Config} {next : Bool → Program}
  (hNext : ∀ started, Elects Ok (next started)) :
  Elects Ok (launch engine starts config next) := by
  unfold launch
  split
  all_goals exact elects_perform (hNext _)

lemma elects_commit (hWinner : Ok winner) : Elects Ok (commit winner) :=
  elects_perform (elects_active hWinner)

lemma elects_nodeOnly (hWinner : Ok winner) : Elects Ok (nodeOnly call winner) := by
  refine elects_ask fun latched => ?_
  split
  next => exact elects_cancel
  next =>
    refine elects_launch fun started => ?_
    split
    next =>
      refine elects_ask fun accepts => ?_
      simp only
      split
      next => exact elects_commit hWinner
      next => exact elects_perform (elects_stop elects_fail)
    next => exact elects_fail

lemma elects_tryProfiles (hWinner : Ok winner) (hNext : Elects Ok next) (position : Nat)
  (profiles : List Profile) : Elects Ok (tryProfiles call winner next position profiles) := by
  induction profiles generalizing position with
  | nil => exact elects_perform hNext
  | cons profile rest ih =>
    refine elects_ask fun latched => ?_
    split
    next => exact hNext
    next =>
      refine elects_perform (elects_launch fun started => ?_)
      split
      next =>
        refine elects_ask fun accepts => ?_
        simp only
        split
        next => exact elects_stop (ih _)
        next =>
          split
          next => exact elects_commit hWinner
          next =>
            split
            next => exact elects_perform (elects_commit hWinner)
            next => exact elects_stop (ih _)
      next => exact ih _

lemma elects_launchLive {next : Bool → Program} (hNext : ∀ up, Elects Ok (next up)) :
  Elects Ok (launchLive call winner next) := by
  refine elects_perform (elects_perform (elects_ask fun stopped => ?_))
  split
  next => exact hNext _
  next =>
    refine elects_launch fun started => ?_
    split
    next =>
      refine elects_ask fun accepts => ?_
      simp only
      split
      next => exact elects_perform (elects_perform (hNext _))
      next => exact elects_perform (elects_stopSidecar (hNext _))
    next => exact hNext _

lemma elects_tunnel (hWinner : Ok winner) : Elects Ok (tunnel call winner) := by
  refine elects_ask fun latched => ?_
  split
  next => exact elects_cancel
  next =>
    split
    next =>
      refine elects_launchLive fun up => ?_
      split
      next => exact elects_perform (elects_active hWinner)
      next => exact elects_perform elects_fail
    next =>
      refine elects_perform ?_
      unfold startSmartSplit
      split
      next => exact elects_nodeOnly hWinner
      next => exact elects_tryProfiles hWinner (elects_nodeOnly hWinner) _ _

-- Who Is Elected

lemma sliceWinner_eq (call : Call) (slice : Nat) :
  call.sliceWinner slice (call.slice slice) = (call.answers slice).head? := by
  unfold Call.sliceWinner Call.answers outcome race judge
  dsimp only
  generalize call.slice slice = candidates
  generalize call.conditions slice = conditions
  by_cases hEmpty : candidates = []
  · subst hEmpty
    rfl
  · cases xrayLaunched candidates conditions <;> cases anytlsLaunched candidates conditions <;>
      cases conditions.ready <;> cases call.interrupted slice <;>
        simp [hEmpty, head?_filter]

lemma answers_of_slice_nil {slice : Nat} (hNil : call.slice slice = []) :
  call.answers slice = [] := by
  rw [← head?_eq_none_iff, ← sliceWinner_eq, hNil]
  rfl

lemma slice_nil_of_le {slice later : Nat} (hNil : call.slice slice = []) (hLe : slice ≤ later) :
  call.slice later = [] := by
  simp only [Call.slice, take_eq_nil_iff, drop_eq_nil_iff, raceWidth] at hNil ⊢
  omega

/- The race is won by the first probe that is answered. -/
lemma raced_eq_some_iff (first count : Nat) (node : Node) :
  call.raced (range' first count) = some node ↔
    ∃ slice, first ≤ slice ∧ slice < first + count ∧ (call.answers slice).head? = some node ∧
      ∀ earlier, first ≤ earlier → earlier < slice → call.answers earlier = [] := by
  induction count generalizing first with
  | zero =>
    refine iff_of_false (by simp [Call.raced]) ?_
    rintro ⟨slice, hFirst, hLast, -⟩
    omega
  | succ count ih =>
    rw [range'_succ, Call.raced]
    have hWinner := sliceWinner_eq call first
    unfold Call.slice at hWinner
    simp only [hWinner]
    split
    next hEmpty =>
      -- behind an empty slice all are empty
      refine iff_of_false (by simp) ?_
      rintro ⟨slice, hFirst, -, hHead, -⟩
      have hNil : call.slice slice = [] := slice_nil_of_le (List.isEmpty_iff.mp hEmpty) hFirst
      rw [answers_of_slice_nil hNil] at hHead
      cases hHead
    · cases hAnswers : call.answers first with
      | cons winner rest =>
        simp only [head?_cons]
        constructor
        · intro hSame
          exact ⟨first, le_rfl, by omega, by rw [hAnswers]; exact hSame, by omega⟩
        · rintro ⟨slice, hFirst, -, hHead, hEarlier⟩
          have hSame : slice = first := by
            by_contra hLater
            rw [hEarlier first le_rfl (by omega)] at hAnswers
            cases hAnswers
          rw [hSame, hAnswers] at hHead
          exact hHead
      | nil =>
        simp only [head?_nil]
        rw [ih]
        constructor
        · rintro ⟨slice, hFirst, hLast, hHead, hEarlier⟩
          refine ⟨slice, by omega, by omega, hHead, fun earlier hFrom hTo => ?_⟩
          by_cases hSame : earlier = first
          · rw [hSame, hAnswers]
          · exact hEarlier earlier (by omega) hTo
        · rintro ⟨slice, hFirst, hLast, hHead, hEarlier⟩
          have hLater : slice ≠ first := by
            rintro rfl
            rw [hAnswers] at hHead
            cases hHead
          exact ⟨slice, by omega, by omega, hHead,
            fun earlier hFrom hTo => hEarlier earlier (by omega) hTo⟩

lemma raced_range_iff (node : Node) :
  call.raced (range maxRaceSlices) = some node ↔ call.AnsweredFirst node := by
  rw [range_eq_range', raced_eq_some_iff, Call.AnsweredFirst]
  simp

lemma returned_raceSlices_of_none {s : Manager} {next : Node → Program} {slices : List Nat}
  (hRaced : call.raced slices = none) (hLatch : (s.engines .xray).latch = false) :
  (play (raceSlices call next slices) s).returned = some false := by
  induction slices generalizing s with
  | nil => rfl
  | cons slice rest ih =>
    unfold raceSlices
    unfold Call.raced at hRaced
    rw [play_readLatch, hLatch, if_neg Bool.false_ne_true]
    simp only at hRaced ⊢
    split at hRaced
    next hNone =>
      rw [if_pos hNone]
      rfl
    next hSome =>
      rw [if_neg hSome]
      rcases play_raceSlice call slice _ _ hLatch with ⟨raced, hPlay, hPasses⟩
      rw [hPlay]
      cases
        hFound : call.sliceWinner slice ((call.ranked.drop (slice * raceWidth)).take raceWidth) with
      | some =>
        rw [hFound] at hRaced
        cases hRaced
      | none =>
        rw [hFound] at hRaced
        exact ih hRaced (hPasses.latch.trans hLatch)

/- A start that succeeds leaves active the node that is answered first. -/
lemma elects_start (call : Call) : Elects call.AnsweredFirst (start call) := by
  intro s hTrue
  unfold start at hTrue ⊢
  split at hTrue
  next => cases hTrue
  next hPool =>
    rw [if_neg hPool]
    simp only [play_perform] at hTrue ⊢
    generalize hBegun : ((Act.listenOn .xray call.port).exec _).2 = begun at hTrue ⊢
    have hLatch : (begun.engines .xray).latch = false := by
      rw [← hBegun]
      rfl
    cases hRaced : call.raced (range maxRaceSlices) with
    | none =>
      rw [returned_raceSlices_of_none hRaced hLatch] at hTrue
      cases hTrue
    | some winner =>
      rcases play_raceSlices (tunnel call) hRaced hLatch with ⟨raced, hPlay, -⟩
      rw [hPlay] at hTrue ⊢
      exact elects_tunnel ((raced_range_iff winner).mp hRaced) raced hTrue

-- Rotations

variable {candidates ranked pool : List Node} {conditions : Conditions} {node : Node}
variable {health : Key → Score} {active : Option Node}

lemma mem_of_answers {slice : Nat} (hNode : node ∈ call.answers slice) : node ∈ call.ranked := by
  unfold Call.answers at hNode
  dsimp only at hNode
  split at hNode
  next =>
    rcases mem_map.mp hNode with ⟨answered, hAnswered, rfl⟩
    rcases mem_filterMap.mp (mem_of_mem_filter hAnswered) with ⟨ended, -, hProbe⟩
    unfold probe at hProbe
    split at hProbe
    next => cases hProbe
    next hAt =>
      rcases Option.map_eq_some_iff.mp hProbe with ⟨port, -, rfl⟩
      exact mem_of_mem_drop (mem_of_mem_take (mem_of_getElem? hAt))
  next => cases hNode

lemma Call.AnsweredFirst.mem (hFirst : call.AnsweredFirst node) : node ∈ call.ranked := by
  rcases hFirst with ⟨slice, -, hHead, -⟩
  exact mem_of_answers (mem_of_head? hHead)

lemma Call.AnsweredFirst.unique {other : Node} (hFirst : call.AnsweredFirst node)
  (hOther : call.AnsweredFirst other) : node = other :=
  Option.some.inj (((raced_range_iff node).mpr hFirst).symm.trans ((raced_range_iff other).mpr hOther))

lemma filter_rounds_groups (ranked : List Node) (n : Nat) (identity : Text) :
  (rounds (groups ranked) n).filter (·.identity = identity) =
    (ranked.filter (·.identity = identity)).take n := by
  have hFirsts := firsts_nil id (ranked.map Node.identity)
  refine filter_rounds ranked ?_ ?_ n
  · simpa [endpoints] using hFirsts.nodup
  · intro node hNode
    have hFirst := hFirsts.mem (k := node.identity)
    simpa [endpoints] using hFirst.mpr (by simpa using ⟨node, hNode, rfl⟩)

lemma count_filter_identity (nodes : List Node) (node : Node) :
  (nodes.filter (·.identity = node.identity)).count node = nodes.count node :=
  count_filter (decide_eq_true rfl)

lemma subperm_rounds (ranked : List Node) (n : Nat) : rounds (groups ranked) n <+~ ranked := by
  refine subperm_ext_iff.mpr fun node _ => ?_
  rw [← count_filter_identity, filter_rounds_groups, ← count_filter_identity ranked]
  exact (take_sublist _ _).count_le _

lemma perm_rounds {n : Nat}
  (hShort : ∀ identity, (ranked.filter (·.identity = identity)).length ≤ n) :
  rounds (groups ranked) n ~ ranked := by
  refine perm_iff_count.mpr fun node => ?_
  rw [← count_filter_identity, filter_rounds_groups, take_of_length_le (hShort _),
    count_filter_identity]

lemma turns_eq_rounds {fuel round : Nat} (hFuel : ranked.length ≤ fuel + round) : ∃ n,
  turns (groups ranked) ranked.length fuel round (rounds (groups ranked) round) =
    rounds (groups ranked) n ∧ rounds (groups ranked) n ~ ranked := by
  induction fuel generalizing round with
  | zero =>
    refine ⟨round, rfl, perm_rounds fun identity => (length_filter_le _ _).trans ?_⟩
    omega
  | succ fuel ih =>
    unfold turns
    simp only
    split
    next =>
      split
      next hNone =>
        -- a round that adds nothing finds every endpoint used up
        refine ⟨round, rfl, perm_rounds fun identity => ?_⟩
        have hMore := congrArg length (filter_rounds_groups ranked (round + 1) identity)
        rw [rounds_add_one, isEmpty_iff.mp hNone, append_nil, filter_rounds_groups, length_take,
          length_take] at hMore
        omega
      next =>
        rw [← rounds_add_one]
        exact ih (by omega)
    next hFull =>
      exact ⟨round, rfl, (subperm_rounds ranked round).perm_of_length_le (Nat.le_of_not_lt hFull)⟩

lemma diversify_eq_rounds (ranked : List Node) :
  ∃ n, diversify ranked = rounds (groups ranked) n ∧ rounds (groups ranked) n ~ ranked :=
  turns_eq_rounds (Nat.le_refl _)

-- Order Of The Candidates

def Node.endpoint (node : Node) : NodeProtocol × String × String × String × Nat :=
  (node.protocol, node.credential, node.host, node.path, node.port)

def Node.Plain (node : Node) : Prop :=
  '|' ∉ node.credential.toList ∧ '|' ∉ node.host.toList ∧ '|' ∉ node.path.toList

lemma count_barred {fields : List Text} (hNe : fields ≠ []) :
  fields.length ≤ (barred fields).count '|' + 1 ∧
    ((barred fields).count '|' + 1 = fields.length ↔ ∀ field ∈ fields, '|' ∉ field) := by
  induction fields with
  | nil => exact absurd rfl hNe
  | cons field rest ih =>
    cases rest with
    | nil => simp [barred, count_eq_zero]
    | cons next rest =>
      have hCount := ih (cons_ne_nil next rest)
      rw [barred] at hCount
      rw [barred, intercalate_cons_cons, count_append, count_append, length_cons,
        count_singleton_self, forall_mem_cons, ← hCount.2, ← count_eq_zero]
      omega

lemma barred_inj {xs ys : List Text} (hText : barred xs = barred ys)
  (hLength : xs.length = ys.length) (hNe : xs ≠ []) (hPlain : ∀ x ∈ xs, '|' ∉ x) : xs = ys := by
  have hNe' : ys ≠ [] := ne_nil_of_length_pos (hLength ▸ length_pos_iff.mpr hNe)
  have hPlain' : ∀ y ∈ ys, '|' ∉ y := by
    rw [← (count_barred hNe').2, ← hText, ← hLength]
    exact (count_barred hNe).2.mpr hPlain
  rw [← splitOn_intercalate '|' hPlain hNe, ← splitOn_intercalate '|' hPlain' hNe']
  exact congrArg (splitOn '|') hText

lemma identity_eq_iff {a b : Node} (hPlain : a.Plain) :
  a.identity = b.identity ↔ a.endpoint = b.endpoint := by
  constructor
  · intro hText
    have hFields := barred_inj hText rfl (cons_ne_nil _ _) (by
      have hProtocol : '|' ∉ a.protocol.text := by cases a.protocol <;> decide
      have hPort : '|' ∉ Nat.toDigits 10 a.port := fun hMem =>
        absurd (Nat.isDigit_of_mem_toDigits (by decide) (by decide) hMem) (by decide)
      simpa using ⟨hProtocol, hPlain.1, hPlain.2.1, hPlain.2.2, hPort⟩)
    simp only [cons.injEq, String.toList_inj, and_true] at hFields
    rcases hFields with ⟨hProtocol, hCredential, hHost, hPath, hPort⟩
    have hSame : a.protocol = b.protocol := by
      revert hProtocol
      cases a.protocol <;> cases b.protocol <;> decide
    have hNumber := congrArg (Nat.ofDigitChars 10 · 0) hPort
    simp only [Nat.ofDigitChars_ten_toDigits] at hNumber
    rw [Node.endpoint, hSame, hCredential, hHost, hPath, hNumber]
    rfl
  · intro hSame
    simp only [Node.endpoint, Prod.mk.injEq] at hSame
    rcases hSame with ⟨hProtocol, hCredential, hHost, hPath, hPort⟩
    rw [Node.identity, Node.identity, hProtocol, hCredential, hHost, hPath, hPort]

/- The ranked nodes in turns, one of each endpoint in a round. -/
structure Diversified (ranked out : List Node) : Prop where
  perm : out ~ ranked
  order : ∀ node : Node, node.Plain → out.filter (·.endpoint = node.endpoint) =
    ranked.filter (·.endpoint = node.endpoint)
  rounds : ∃ n, out = (range n).flatMap fun round => (endpoints ranked).filterMap fun identity =>
    (ranked.filter (·.identity = identity))[round]?

/- The ranked nodes come in rounds, one of each endpoint. -/
theorem candidates_take_turns
    (ranked : List Node) :
    Diversified ranked (diversify ranked) ∧
    ∀ a b : Node, a.Plain → (a.identity = b.identity ↔ a.endpoint = b.endpoint) := by
  rcases diversify_eq_rounds ranked with ⟨n, hEq, hPerm⟩
  refine ⟨⟨hEq ▸ hPerm, ?_, n, ?_⟩, fun a b hPlain => identity_eq_iff hPlain⟩
  · intro node hPlain
    have hShort : (ranked.filter (·.identity = node.identity)).length ≤ n := by
      have hLength := (hPerm.filter (·.identity = node.identity)).length_eq
      rw [filter_rounds_groups, length_take] at hLength
      omega
    have hSame : ∀ other : Node, other.endpoint = node.endpoint ↔
      other.identity = node.identity := by
      intro other
      rw [eq_comm, ← identity_eq_iff hPlain, eq_comm]
    simp only [hSame]
    rw [hEq, filter_rounds_groups, take_of_length_le hShort]
  · rw [hEq, Distinct.rounds, groups]
    simp only [filterMap_map]
    rfl

lemma mem_of_ranking (hNode : node ∈ ranking health active pool) : node ∈ pool := by
  rcases diversify_eq_rounds (rank (active.elim health (recordFailure health)) pool) with
    ⟨_, hEq, hPerm⟩
  rw [ranking, hEq, hPerm.mem_iff] at hNode
  exact (mem_insertionSort _).mp hNode

/-
  A rotation that succeeds leaves the failed node for another one of the pool, if and only if the
  failed node's probe is not the first that is answered.
-/
theorem rotation_leaves_failed_node_iff
    {s : Manager}
    {failed : Node}
    (hRanked : call.ranked = ranking health (some failed) pool)
    (hActive : s.activeNode = some failed)
    (hReturned : (play (rotate call) s).returned = some true) :
    (∃ node ∈ pool, (play (rotate call) s).activeNode = some node ∧
      some node ≠ s.activeNode) ↔
    ¬ call.AnsweredFirst failed := by
  have hServes : Elects call.AnsweredFirst (rotate call) :=
    elects_act fun port => elects_start { call with port := port }
  rcases hServes s hReturned with ⟨winner, hWinner, hFirst⟩
  rw [hActive]
  constructor
  · rintro ⟨node, -, hNode, hOther⟩ hFailed
    rw [hWinner] at hNode
    cases hNode
    exact hOther (congrArg some (hFirst.unique hFailed))
  · intro hFailed
    refine ⟨winner, mem_of_ranking (hRanked ▸ hFirst.mem), hWinner, ?_⟩
    intro hSame
    rw [← Option.some.inj hSame] at hFailed
    exact hFailed hFirst

def otherNode : Node := sampleNode .vless "192.0.2.2"

def thirdNode : Node := sampleNode .vless "192.0.2.3"

def steadyHealth : Key → Score := fun key => if key = sampleWinner.key then ⟨700, 9, 0, 0⟩ else ⟨0, 0, 0, 0⟩

/- All three nodes answer, beginning with the one at the position. -/
def rotation (position : Nat) : Call :=
  { sampleCall with
    ranked := ranking steadyHealth (some sampleWinner) [otherNode, sampleWinner, thirdNode]
    conditions := fun _ => ⟨true, true, true, [(position, true), (0, true), (1, true), (2, true)]⟩ }

def serving : Manager := { fresh with activeNode := some sampleWinner }

/- The failed node is still ranked first and answers, but another one is faster. -/
theorem rotation_takes_other_node :
    (play (rotate (rotation 1)) serving).returned = some true ∧
    ∃ node ∈ [otherNode, sampleWinner, thirdNode],
      (play (rotate (rotation 1)) serving).activeNode = some node ∧
        some node ≠ serving.activeNode := by
  have hReturned : (play (rotate (rotation 1)) serving).returned = some true := by decide +kernel
  refine ⟨hReturned, (rotation_leaves_failed_node_iff rfl rfl hReturned).mpr ?_⟩
  unfold Call.AnsweredFirst
  decide +kernel

theorem rotation_returns_to_failed_node :
  (play (rotate (rotation 0)) serving).returned = some true ∧
  (play (rotate (rotation 0)) serving).activeNode = some sampleWinner := by decide +kernel

end Kourosh.Shard
