import Kourosh.Lib.Run
import Kourosh.RemotePolicy.Remote

/-
  Which lists are in force.

  The policy is to keep, for each list on its own, the last one that validated.

  Correctness is proven by:
    * `lastGood_iff_covered`
-/

-- The Ledger

namespace Kourosh.RemotePolicy

structure System where
  remote : Remote
  ledger : Policy

def install : System where
  remote := { file := none, cached := none }
  ledger := builtin

def record (platform : Platform) (ledger : Policy) : Event → Policy
| .fetch response true =>
  match read platform (response.take maxBodyChars) with
  | none => ledger
  | some verdict => verdict.merge ledger
| _ => ledger

def System.step (platform : Platform) (s : System) (event : Event) : Option System :=
  (RemotePolicy.step platform s.remote event).map
    fun remote => ⟨remote, record platform s.ledger event⟩

def LastGood (platform : Platform) (s : System) : Prop := policy platform s.remote = s.ledger

-- Coverage

/-
  Each list that the verdict lacks has never been changed: the last good one is the built-in one.
-/
def Backed (verdict : Verdict) (ledger : Policy) : Prop :=
  (verdict.edges = none → ledger.edges = builtin.edges) ∧
    (verdict.geoBlocked = none → ledger.geoBlocked = builtin.geoBlocked) ∧
    (verdict.sanctioned = none → ledger.sanctioned = builtin.sanctioned) ∧
    (verdict.exitEndpoints = none → ledger.exitEndpoints = builtin.exitEndpoints)

/- A restart finds every list in the file's body, or never changed. -/
def Covered (platform : Platform) (s : System) : Event → Prop
| .fetch response renamed =>
  s.remote.cached = none →
  renamed = true →
  ∀ verdict, read platform (response.take maxBodyChars) = some verdict → Backed verdict s.ledger
| .restart => Backed (fileVerdict platform s.remote) s.ledger
| .lookup => True

variable {verdict : Verdict} {platform : Platform} {s : System}
variable {response : Text} {event : Event}

/- The built-in lists serve as well as the ledger's. -/
lemma merge_builtin_eq_iff {ledger : Policy} :
  verdict.merge builtin = verdict.merge ledger ↔ Backed verdict ledger := by
  have hField : ∀ {α : Type} (list : Option α) (old new : α), list.getD old = list.getD new ↔
    (list = none → new = old) := by
    intro α list old new
    cases list with
    | none => simp [eq_comm]
    | some => simp
  simp only [Verdict.merge, Policy.mk.injEq, hField, Backed]

-- Runs

/- Along a covered run the ledger has what is in force, and whatever the file's body validates. -/
structure InStep (platform : Platform) (s : System) : Prop where
  inForce : LastGood platform s
  filed : (fileVerdict platform s.remote).merge s.ledger = s.ledger

lemma inStep_install (platform : Platform) : InStep platform install where
  inForce := rfl
  filed := rfl

lemma fileVerdict_of_read {body : Text} (hRead : read platform body = some verdict)
  (cached : Option Policy) : fileVerdict platform ⟨some body, cached⟩ = verdict := by
  simp [fileVerdict, hRead]

lemma lastGood_restart_iff (hFiled : (fileVerdict platform s.remote).merge s.ledger = s.ledger) :
  LastGood platform ⟨{ s.remote with cached := none }, s.ledger⟩ ↔
  Covered platform s .restart := by
  have hPolicy : policy platform { s.remote with cached := none } =
    (fileVerdict platform s.remote).merge builtin :=
    policy_of_cached_none rfl
  rw [LastGood, hPolicy]
  nth_rewrite 2 [← hFiled]
  exact merge_builtin_eq_iff

lemma lastGood_accepted_iff (hInForce : LastGood platform s)
  (hRead : read platform (response.take maxBodyChars) = some verdict) :
  verdict.merge (s.remote.cached.getD builtin) = verdict.merge s.ledger ↔
  Covered platform s (.fetch response true) := by
  cases hCached : s.remote.cached with
  | none => simp [Covered, hCached, hRead, merge_builtin_eq_iff]
  | some current =>
    have hCurrent : current = s.ledger := by simpa [LastGood, policy, hCached] using hInForce
    simp [Covered, hCached, hCurrent]

lemma record_accepted (hRead : read platform (response.take maxBodyChars) = some verdict)
  (ledger : Policy) : record platform ledger (.fetch response true) = verdict.merge ledger := by
  simp [record, hRead]

lemma record_rejected {renamed : Bool}
  (hRejected : read platform (response.take maxBodyChars) = none ∨ renamed = false)
  (ledger : Policy) : record platform ledger (.fetch response renamed) = ledger := by
  rcases hRejected with hRead | rfl
  · cases renamed with
    | false => rfl
    | true => simp [record, hRead]
  · rfl

lemma inStep_step {s' : System} (hInStep : InStep platform s) (hCovered : Covered platform s event)
  (hStep : s.step platform event = some s') : InStep platform s' := by
  cases event with
  | fetch response renamed =>
    cases hStep
    rcases refresh_cases platform s.remote response renamed with
      ⟨hSame, hRejected⟩ | ⟨verdict, hRead, rfl, hTaken⟩
    · rw [hSame, record_rejected hRejected]
      exact hInStep
    · rw [hTaken, record_accepted hRead]
      refine ⟨?_, ?_⟩
      · exact (lastGood_accepted_iff hInStep.inForce hRead).mpr hCovered
      · rw [fileVerdict_of_read hRead]
        exact Verdict.merge_merge _ _
  | restart =>
    cases hStep
    exact ⟨(lastGood_restart_iff hInStep.filed).mpr hCovered, hInStep.filed⟩
  | lookup =>
    cases hStep
    exact ⟨hInStep.inForce, hInStep.filed⟩

lemma not_lastGood_of_not_covered
  (hInStep : InStep platform s) (hCovered : ¬ Covered platform s event) :
  ∃ s', s.step platform event = some s' ∧ ¬ LastGood platform s' := by
  cases event with
  | fetch response renamed =>
    refine ⟨_, rfl, ?_⟩
    rcases refresh_cases platform s.remote response renamed with
      ⟨_, hRejected⟩ | ⟨verdict, hRead, rfl, hTaken⟩
    · exfalso
      apply hCovered
      intro _ hRenamed verdict hRead
      rcases hRejected with hNone | hFalse
      · rw [hNone] at hRead
        cases hRead
      · rw [hFalse] at hRenamed
        cases hRenamed
    · rw [hTaken, record_accepted hRead]
      exact fun hGood => hCovered ((lastGood_accepted_iff hInStep.inForce hRead).mp hGood)
  | restart =>
    refine ⟨_, rfl, ?_⟩
    exact fun hGood => hCovered ((lastGood_restart_iff hInStep.filed).mp hGood)
  | lookup => exact absurd trivial hCovered

/-
  The lists in force are the last good ones throughout a history exactly if every restart, and
  every body before the first lookup, is covered.
-/
theorem lastGood_iff_covered
    (platform : Platform)
    (events : List Event) :
    Run.Throughout (System.step platform) (LastGood platform) install events ↔
      Run.Taken (System.step platform) (Covered platform) install events := by
  exact Run.throughout_iff_taken (I := InStep platform)
    InStep.inForce inStep_step not_lastGood_of_not_covered (inStep_install platform) events

def twoEdits : Platform where
  lowercase := id
  uppercase := id
  json := fun body =>
    if body = "hosts".toList then some ⟨none, some ["www.example.com".toList], none, none⟩
    else if body = "edges".toList then some ⟨some ["104.16.0.1".toList], none, none, none⟩
    else none

/- The hosts are back to the built-in ones after a restart. -/
theorem hosts_reverted : ¬ ∀ (platform : Platform) (events : List Event),
  Run.Throughout (System.step platform) (LastGood platform) install events := by
  intro hAll
  let events : List Event := [.fetch "hosts".toList true, .fetch "edges".toList true, .restart]
  refine Run.not_throughout (q := fun s : System => decide (policy twoEdits s.remote ≠ s.ledger))
    (fun hNe => of_decide_eq_true hNe) ?_
    (hAll twoEdits events)
  decide +kernel

end Kourosh.RemotePolicy
