import Mathlib.Data.List.Rotate

/-
  The ladder of Psiphon's strategies, when every attempt fails.

  Correctness is proven by:
    * `ladder_is_walked_once`
-/

-- The Ladder

namespace Kourosh.Psiphon

open List

/- The preferences with the strategy that won, and with the ladder it is a rung of. -/
structure Memory where
  shape : Option String
  winningStrategy : Option Int

structure Attempt where
  rung : Nat
  country : Option String
deriving DecidableEq

structure Service where
  ladderIndex : Nat
  ladderAttempts : Nat
  ladderActive : Bool
  regionPhase : Bool
  stopRequested : Bool
  vpnActivated : Bool
  -- the worker has a start to make
  queued : Bool
  -- the starts it made, and the calls of `failAndStop`
  attempts : List Attempt
  failures : Nat

/- An exit is one of the current controller: those of an older one are ignored. -/
inductive Signal
| exiting | timer

section

/- The names of the active ladder's strategies, and the setting of a preferred country. -/
variable (ladder : List String) (region : Option String)

def ladderSignature : String := ",".intercalate ladder

def rememberedRungIndex (memory : Memory) : Nat × Memory :=
  if memory.shape = some (ladderSignature ladder) then
    ((min (memory.winningStrategy.getD 0) (ladder.length - 1)).toNat, memory)
  else (0, ⟨some (ladderSignature ladder), none⟩)

def connect (memory : Memory) (s : Service) : Service :=
  { s with
    ladderIndex := (rememberedRungIndex ladder memory).1, ladderAttempts := 0
    regionPhase := region.isSome, vpnActivated := false, queued := true, attempts := []
    failures := 0 }

def armLadderTimer (s : Service) : Service :=
  match ladder[s.ladderIndex]? with
  | none => s
  | some _ => { s with ladderActive := true }

def startPsiphonTunnel (s : Service) : Service :=
  armLadderTimer ladder { s with
    attempts := s.attempts ++ [⟨s.ladderIndex, if s.regionPhase then region else none⟩] }

def work (s : Service) : Option Service :=
  if !s.queued then none
  else if s.stopRequested then some { s with queued := false }
  else some (startPsiphonTunnel ladder region { s with queued := false })

def escalateLadder (s : Service) : Service :=
  if s.stopRequested || !s.ladderActive then s
  else if s.regionPhase then { s with ladderActive := false, regionPhase := false, queued := true }
  else if s.ladderAttempts + 1 ≥ ladder.length then
    { s with
      ladderActive := false, ladderIndex := 0, ladderAttempts := 0, regionPhase := false
      failures := s.failures + 1 }
  else
    { s with
      ladderActive := false, ladderIndex := (s.ladderIndex + 1) % ladder.length
      ladderAttempts := s.ladderAttempts + 1, queued := true }

def handle (s : Service) : Signal → Service
| .exiting =>
  if !s.stopRequested && !s.vpnActivated && s.ladderActive then escalateLadder ladder s else s
| .timer => if s.ladderActive && !s.vpnActivated then escalateLadder ladder s else s

/- An attempt is started and gets its signals. -/
def attempt (s : Service) (signals : List Signal) : Option Service :=
  (work ladder region s).map (signals.foldl (handle ladder))

def run (failures : List (List Signal)) (s : Service) : Option Service :=
  failures.foldlM (attempt ladder region) s

def attemptsFrom (start : Nat) : List Attempt :=
  region.toList.map (⟨start, some ·⟩) ++ ((range ladder.length).rotate start).map (⟨·, none⟩)

-- Runs

structure Ready (s : Service) : Prop where
  queued : s.queued = true
  goesOn : s.stopRequested = false
  fails : s.vpnActivated = false
  rung : s.ladderIndex < ladder.length
  left : s.ladderAttempts < ladder.length

def later (index attempts : Nat) : List Attempt :=
  (range (ladder.length - attempts)).map fun k => ⟨(index + k) % ladder.length, none⟩

def coming (s : Service) : List Attempt :=
  (if s.regionPhase then [⟨s.ladderIndex, region⟩] else []) ++
    later ladder s.ladderIndex s.ladderAttempts

end

variable {ladder : List String} {region : Option String} {s : Service} {memory : Memory}

lemma foldl_handle_of_inactive (hInactive : s.ladderActive = false) (signals : List Signal) :
  signals.foldl (handle ladder) s = s := by
  induction signals with
  | nil => rfl
  | cons signal _ ih =>
    have hSame : handle ladder s signal = s := by cases signal <;> simp [handle, hInactive]
    rw [foldl_cons, hSame, ih]

lemma later_of_lt {index attempts : Nat} (hRung : index < ladder.length)
  (hLeft : attempts < ladder.length) : later ladder index attempts =
    ⟨index, none⟩ :: later ladder ((index + 1) % ladder.length) (attempts + 1) := by
  have hCount : ladder.length - attempts = ladder.length - (attempts + 1) + 1 := by omega
  simp only [later, hCount, range_succ_eq_map, map_cons, map_map, Nat.add_zero,
    Nat.mod_eq_of_lt hRung, Nat.mod_add_mod]
  simp [Function.comp_def, Nat.add_right_comm, Nat.add_assoc]

lemma attempt_of_ready (hReady : Ready ladder s) {signals : List Signal} (hFails : signals ≠ []) :
  ∃ s' next rest, attempt ladder region s signals = some s' ∧
    coming ladder region s = next :: rest ∧ s'.attempts = s.attempts ++ [next] ∧
    (Ready ladder s' ∧ coming ladder region s' = rest ∧ s'.failures = s.failures ∨
      rest = [] ∧ s'.queued = false ∧ s'.failures = s.failures + 1) := by
  rcases s with ⟨index, count, active, phase, stop, vpn, queued, made, reported⟩
  rcases hReady with ⟨rfl, rfl, rfl, hRung, hLeft⟩
  rcases exists_cons_of_ne_nil hFails with ⟨signal, more, rfl⟩
  let started : Service := ⟨index, count, true, phase, false, false, false,
    made ++ [⟨index, if phase then region else none⟩], reported⟩
  -- the first signal clears the latch
  have hInactive : (escalateLadder ladder started).ladderActive = false := by
    simp only [escalateLadder, started]
    split_ifs <;> simp_all
  have hEscalate : attempt ladder region ⟨index, count, active, phase, false, false, true, made,
    reported⟩ (signal :: more) = some (escalateLadder ladder started) := by
    rw [← @foldl_handle_of_inactive ladder _ hInactive more]
    cases signal <;>
      simp [attempt, work, startPsiphonTunnel, armLadderTimer, handle, hRung, started]
  have hLater := later_of_lt hRung hLeft
  cases phase with
  | true =>
    exact ⟨_, ⟨index, region⟩, _, hEscalate, rfl, rfl,
      .inl ⟨⟨rfl, rfl, rfl, hRung, hLeft⟩, rfl, rfl⟩⟩
  | false =>
    by_cases hLast : count + 1 ≥ ladder.length
    · have hEnd : escalateLadder ladder started = _ := if_pos hLast
      rw [hEnd] at hEscalate
      exact ⟨_, ⟨index, none⟩, _, hEscalate, hLater, rfl,
        .inr ⟨by simp [later, hLast], rfl, rfl⟩⟩
    · have hNext : escalateLadder ladder started = _ := if_neg hLast
      rw [hNext] at hEscalate
      exact ⟨_, ⟨index, none⟩, _, hEscalate, hLater, rfl,
        .inl ⟨⟨rfl, rfl, rfl, Nat.mod_lt _ (Nat.zero_lt_of_lt hRung), Nat.not_le.mp hLast⟩, rfl, rfl⟩⟩

lemma run_of_ready {failures : List (List Signal)} (hReady : Ready ladder s)
  (hFails : ∀ signals ∈ failures, signals ≠ [])
  (hLength : failures.length = (coming ladder region s).length) :
  ∃ s', run ladder region failures s = some s' ∧
    s'.attempts = s.attempts ++ coming ladder region s ∧ s'.queued = false ∧
    s'.failures = s.failures + 1 := by
  induction failures generalizing s with
  | nil => simp [coming, later_of_lt hReady.rung hReady.left] at hLength
  | cons signals failures ih =>
    rcases forall_mem_cons.mp hFails with ⟨hFirst, hRest⟩
    rcases @attempt_of_ready _ region _ hReady _ hFirst with
      ⟨s₁, next, rest, hAttempt, hComing, hAttempts, hAfter⟩
    have hRun : run ladder region (signals :: failures) s = run ladder region failures s₁ := by
      rw [run, foldlM_cons, hAttempt]
      rfl
    rw [hComing] at hLength ⊢
    have hLength := Nat.succ.inj hLength
    rcases hAfter with ⟨hReady, rfl, hFailures⟩ | ⟨rfl, hEnd⟩
    · rcases ih hReady hRest hLength with ⟨s', hThen, hLater, hEnd⟩
      rw [hAttempts, append_assoc] at hLater
      rw [hFailures] at hEnd
      exact ⟨s', hRun.trans hThen, hLater, hEnd⟩
    · cases length_eq_zero_iff.mp hLength
      exact ⟨s₁, hRun, hAttempts, hEnd⟩

lemma rung_lt (hLadder : ladder ≠ []) : (rememberedRungIndex ladder memory).1 < ladder.length := by
  have hLength := length_pos_of_ne_nil hLadder
  unfold rememberedRungIndex
  split
  · simp only
    omega
  · exact hLength

lemma coming_connect : coming ladder region (connect ladder region memory s) =
  attemptsFrom ladder region (rememberedRungIndex ladder memory).1 := by
  have hRotate : ∀ start, (range ladder.length).rotate start =
    (range ladder.length).map fun k => (start + k) % ladder.length := by
    intro start
    refine ext_getElem (by simp) fun k _ _ => ?_
    simp [getElem_rotate, Nat.add_comm]
  cases region with
  | none | some => simp [coming, connect, attemptsFrom, later, hRotate, Function.comp_def]

/-
  The start is a rung of the ladder, and the remembered one only for this ladder. When all
  attempts have failed, each has been made once and in order, and the failure is reported once.
-/
theorem ladder_is_walked_once
    (memory : Memory)
    (hLadder : ladder ≠ [])
    (hStop : s.stopRequested = false) :
    let start := (rememberedRungIndex ladder memory).1
    start < ladder.length ∧
    (memory.shape ≠ some (ladderSignature ladder) → start = 0) ∧
    (memory.shape = some (ladderSignature ladder) →
      ∀ rung : Nat, rung < ladder.length → memory.winningStrategy = some ↑rung → start = rung) ∧
    ∀ failures : List (List Signal),
      (∀ signals ∈ failures, signals ≠ []) →
      failures.length = (attemptsFrom ladder region start).length →
      ∃ s', run ladder region failures (connect ladder region memory s) = some s' ∧
        s'.attempts = attemptsFrom ladder region start ∧ s'.queued = false ∧ s'.failures = 1 := by
  refine ⟨rung_lt hLadder, fun hShape => by rw [rememberedRungIndex, if_neg hShape], ?_, ?_⟩
  · intro hShape rung hRung hStored
    rw [rememberedRungIndex, if_pos hShape, hStored]
    simp only [Option.getD_some]
    omega
  · intro failures hFails hLength
    rw [← @coming_connect _ _ s] at hLength ⊢
    have hReady : Ready ladder (connect ladder region memory s) :=
      ⟨rfl, hStop, rfl, rung_lt hLadder, length_pos_of_ne_nil hLadder⟩
    exact run_of_ready hReady hFails hLength

theorem second_rung_comes_first : ∃ s', run ["A", "D", "C"] (some "DE")
  [[.timer], [.exiting, .timer], [.timer], [.timer, .exiting]] (connect ["A", "D", "C"] (some "DE")
    ⟨some "A,D,C", some 1⟩ ⟨0, 2, false, false, false, true, false, [], 0⟩) = some s' ∧
  s'.attempts = [⟨1, some "DE"⟩, ⟨1, none⟩, ⟨2, none⟩, ⟨0, none⟩] ∧ s'.failures = 1 := by
  rcases (@ladder_is_walked_once ["A", "D", "C"] (some "DE")
    ⟨0, 2, false, false, false, true, false, [], 0⟩ ⟨some "A,D,C", some 1⟩ (by simp) rfl).2.2.2
    [[.timer], [.exiting, .timer], [.timer], [.timer, .exiting]] (by simp) rfl with
    ⟨s', hRun, hAttempts, -, hFailures⟩
  exact ⟨s', hRun, hAttempts, hFailures⟩

end Kourosh.Psiphon
