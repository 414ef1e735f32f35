import Mathlib.Data.List.Basic

/-
  Runs of a system of guarded events.

  A system is a step function: an event is taken in a state or it is not enabled there.
-/

-- Reached States

namespace Run

variable {σ ε : Type}

inductive Reaches (step : σ → ε → Option σ) (ok : σ → ε → Prop) (init : σ) : σ → Prop
| start : Reaches step ok init init
| next {s s' : σ} {e : ε} (hRun : Reaches step ok init s) (hOk : ok s e)
  (hStep : step s e = some s') :
  Reaches step ok init s'

def Always : σ → ε → Prop := fun _ _ => True

namespace Reaches

variable {step : σ → ε → Option σ} {ok : σ → ε → Prop} {init s : σ}

lemma invariant {I : σ → Prop}
  (hInit : I init) (hKeep : ∀ {s s' : σ} {e : ε}, I s → ok s e → step s e = some s' → I s')
  (hRun : Reaches step ok init s) : I s := by
  induction hRun with
  | start => exact hInit
  | next _ hOk hStep ih => exact hKeep ih hOk hStep

lemma mono {weaker : σ → ε → Prop} (hWeaker : ∀ s e, ok s e → weaker s e)
  (hRun : Reaches step ok init s) : Reaches step weaker init s := by
  induction hRun with
  | start => exact .start
  | next _ hOk hStep ih => exact .next ih (hWeaker _ _ hOk) hStep

/-
  An invariant whose preservation rests on another one that is already known to hold along the
  run.
-/
lemma invariant_of {I J : σ → Prop} (hKnown : ∀ {s : σ}, Reaches step ok init s → J s)
  (hInit : I init) (hKeep : ∀ {s s' : σ} {e : ε}, J s → I s → ok s e → step s e = some s' → I s')
  (hRun : Reaches step ok init s) : I s := by
  induction hRun with
  | start => exact hInit
  | next hRun hOk hStep ih => exact hKeep (hKnown hRun) ih hOk hStep

end Reaches

-- Executing A List Of Events

def exec (step : σ → ε → Option σ) (s : σ) : List ε → Option σ
| [] => some s
| e :: events => (step s e).bind (exec step · events)

def Taken (step : σ → ε → Option σ) (ok : σ → ε → Prop) (s : σ) : List ε → Prop
| [] => True
| e :: events => ok s e ∧ ∀ s' ∈ step s e, Taken step ok s' events

variable {step : σ → ε → Option σ} {ok : σ → ε → Prop} {init s s' : σ}
variable {events : List ε} {p : σ → Prop}

lemma Reaches.of_exec (hRun : Reaches step ok init s) (hExec : exec step s events = some s')
  (hTaken : Taken step ok s events) : Reaches step ok init s' := by
  induction events generalizing s with
  | nil =>
    cases hExec
    exact hRun
  | cons _ _ ih =>
    rcases Option.bind_eq_some_iff.mp hExec with ⟨s₁, hStep, hRest⟩
    exact ih (.next hRun hTaken.1 hStep) hRest (hTaken.2 s₁ hStep)

lemma taken_always (step : σ → ε → Option σ) (s : σ) (events : List ε) :
  Taken step Always s events := by
  induction events generalizing s with
  | nil => trivial
  | cons _ _ ih => exact ⟨trivial, fun s' _ => ih s'⟩

lemma taken_of_reaches (hOk : ∀ {s : σ}, Reaches step Always init s → ∀ e, ok s e)
  (hRun : Reaches step Always init s) (events : List ε) : Taken step ok s events := by
  induction events generalizing s with
  | nil => trivial
  | cons e _ ih =>
    refine ⟨hOk hRun e, ?_⟩
    intro s' hStep
    exact ih (.next hRun trivial hStep)

/- Replaying a list of events checks every condition. -/
instance Taken.decidable (step : σ → ε → Option σ) (ok : σ → ε → Prop)
  [∀ s e, Decidable (ok s e)] : ∀ (s : σ) (events : List ε), Decidable (Taken step ok s events)
| _, [] => inferInstanceAs (Decidable True)
| s, e :: events =>
  have : DecidablePred fun s' => Taken step ok s' events :=
    fun s' => Taken.decidable step ok s' events
  inferInstanceAs (Decidable (ok s e ∧ ∀ s' ∈ step s e, Taken step ok s' events))

lemma exists_reaches (step : σ → ε → Option σ) (ok : σ → ε → Prop)
  (init : σ) (p : σ → Bool) (events : List ε) (hTaken : Taken step ok init events)
  (hEnd : (exec step init events).any p) : ∃ s, Reaches step ok init s ∧ p s := by
  cases hExec : exec step init events with
  | none => simp [hExec] at hEnd
  | some s =>
    rw [hExec] at hEnd
    exact ⟨s, Reaches.start.of_exec hExec hTaken, hEnd⟩

-- Properties Of Every State On The Way

def Throughout (step : σ → ε → Option σ) (p : σ → Prop) (s : σ) : List ε → Prop
| [] => p s
| e :: events => p s ∧ ∀ s' ∈ step s e, Throughout step p s' events

lemma Throughout.of_exec
  (hAll : Throughout step p s events) (hExec : exec step s events = some s') : p s' := by
  induction events generalizing s with
  | nil =>
    cases hExec
    exact hAll
  | cons _ _ ih =>
    rcases Option.bind_eq_some_iff.mp hExec with ⟨s₁, hStep, hRest⟩
    exact ih (hAll.2 s₁ hStep) hRest

lemma not_throughout {q : σ → Bool} (hBad : ∀ {s : σ}, q s → ¬ p s)
  (hEnd : (exec step s events).any q) : ¬ Throughout step p s events := by
  intro hAll
  cases hExec : exec step s events with
  | none => simp [hExec] at hEnd
  | some =>
    rw [hExec] at hEnd
    exact hBad hEnd (hAll.of_exec hExec)

/-
  A condition that decides a property: permitted events keep an invariant that gives the property,
  and the first event that is not permitted leads to a state without it.
-/
lemma throughout_iff_taken {I : σ → Prop} (hHolds : ∀ {s : σ}, I s → p s)
  (hKeep : ∀ {s s' : σ} {e : ε}, I s → ok s e → step s e = some s' → I s')
  (hBreak : ∀ {s : σ} {e : ε}, I s → ¬ ok s e → ∃ s', step s e = some s' ∧ ¬ p s')
  (hStart : I s) (events : List ε) : Throughout step p s events ↔ Taken step ok s events := by
  induction events generalizing s with
  | nil => exact ⟨fun _ => trivial, fun _ => hHolds hStart⟩
  | cons e events ih =>
    by_cases hOk : ok s e
    · constructor
      · intro hAll
        refine ⟨hOk, ?_⟩
        intro s' hStep
        exact (ih (hKeep hStart hOk hStep)).mp (hAll.2 s' hStep)
      · intro hTaken
        refine ⟨hHolds hStart, ?_⟩
        intro s' hStep
        exact (ih (hKeep hStart hOk hStep)).mpr (hTaken.2 s' hStep)
    · refine ⟨?_, fun hTaken => absurd hTaken.1 hOk⟩
      intro hAll
      rcases hBreak hStart hOk with ⟨s', hStep, hNot⟩
      have hRest := hAll.2 s' hStep
      -- the state behind the event is the first of the rest
      cases events with
      | nil => exact absurd hRest hNot
      | cons => exact absurd hRest.1 hNot

-- Lists Of Parties

variable {α : Type} {parties : List α} {a b : α} {i j : Nat}

/- One party moved: it is the one looked at, or another. -/
lemma getElem?_set_cases (hAt : (parties.set i a)[j]? = some b) :
  (j = i ∧ b = a) ∨ (j ≠ i ∧ parties[j]? = some b) := by
  rw [List.getElem?_set] at hAt
  split at hAt
  next hSame =>
    split at hAt
    next =>
      cases hAt
      exact .inl ⟨hSame.symm, rfl⟩
    next => cases hAt
  next hOther => exact .inr ⟨Ne.symm hOther, hAt⟩

lemma getElem?_append_cases {joined : List α}
  (hAt : (parties ++ joined)[j]? = some b) : parties[j]? = some b ∨ b ∈ joined := by
  rw [List.getElem?_append] at hAt
  split at hAt
  next => exact .inl hAt
  next => exact .inr (List.mem_of_getElem? hAt)

end Run
