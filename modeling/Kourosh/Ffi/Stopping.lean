import Kourosh.Ffi.Lifecycle

/-
  Stops that are granted.

  A stop reads one flag and sets another, and a start claims the first and then resets the second.

  Correctness is proven by:
    * `stops_answered_of_timely`
-/

-- Answers To A Stop

namespace Kourosh.Ffi

open Run
open Function

def Starter.live : Starter → Bool
| building | selecting _ => true
| out | claimed | leaving _ => false

def Starter.ticket : Starter → Option Nat
| selecting (.created ticket) => some ticket
| selecting (.parked ticket) => some ticket
| _ => none

/- A step of `wait_for_stop`. -/
def Event.ofWaiter : Event → Bool
| create | check | wake => true
| _ => false

namespace Core

variable {s s' : Core}

attribute [local simp] setStopper Core.store setStarter step exec store check

/- Left to itself, `wait_for_stop` returns in the run that is going on. -/
def Returns (s : Core) : Prop := ∃ events s',
  events.all Event.ofWaiter = true ∧ exec step s events = some s' ∧
    s'.starter = .leaving .stopped ∧ s'.run = s.run

structure Answered (s : Core) : Prop where
  -- a stop granted for the run in `select!` is not lost
  heeded : ∀ waiter, s.starter = .selecting waiter → s.granted s.run = true → s.Returns
  -- a run that was stopped was asked to stop itself
  own : s.starter = .leaving .stopped → s.asked s.run = true

/-
  A stop sets the flag behind the reset of the run it found running, and before that run is
  followed by another.
-/
def Timely (s : Core) : Event → Prop
| .store i =>
  ∀ run, s.stoppers i = .loaded run → (s.starter = .claimed → run ≠ s.run) ∧
    (s.starter.live = true → run = s.run ∨ s.asked s.run = true)
| _ => True

instance (s : Core) (e : Event) : Decidable (s.Timely e) :=
  match e with
  | .store i =>
    match hStopper : s.stoppers i with
    | .loaded run =>
      decidable_of_iff ((s.starter = .claimed → run ≠ s.run) ∧
        (s.starter.live = true → run = s.run ∨ s.asked s.run = true))
        (by simp [Timely, hStopper])
    | .out | .stored _ => .isTrue (by simp [Timely, hStopper])
  | .claim | .reset | .built | .buildFailed | .create
  | .check | .wake | .finish | .release | .load _
  | .notify _ => .isTrue trivial

-- The Invariant

structure Sound (s : Core) : Prop where
  loaded : ∀ i run, s.stoppers i = .loaded run → run ≤ s.run
  stored : ∀ i run, s.stoppers i = .stored run → s.asked run = true
  asked : ∀ run, s.asked run = true → run ≤ s.run
  granted : ∀ run, s.granted run = true → s.asked run = true
  fresh : s.starter = .claimed → s.asked s.run = false
  flag : s.starter.live = true → s.stopRequested = s.asked s.run
  own : s.starter = .leaving .stopped → s.asked s.run = true
  issued : ∀ ticket ∈ s.starter.ticket, s.notify.Issued ticket
  awake : ∀ ticket, s.starter = .selecting (.parked ticket) →
    s.granted s.run = true → s.notify.ready ticket = true

lemma sound_init : Sound init where
  loaded := nofun
  stored := nofun
  asked := nofun
  granted := nofun
  fresh := nofun
  flag := nofun
  own := nofun
  issued := nofun
  awake := nofun

namespace Sound

variable {starter : Starter} {i run : Nat}

variable (hSound : Sound s)

include hSound

lemma setStarter (hClaimed : starter ≠ .claimed) (hLive : starter.live → s.starter.live)
  (hOwn : starter = .leaving .stopped → s.asked s.run)
  (hIssued : ∀ ticket ∈ starter.ticket, s.notify.Issued ticket)
  (hAwake : ∀ ticket, starter = .selecting (.parked ticket) →
  s.granted s.run → s.notify.ready ticket) : Sound (s.setStarter starter) :=
  { hSound with
    fresh := fun h => absurd h hClaimed, flag := fun h => hSound.flag (hLive h), own := hOwn,
    issued := hIssued, awake := hAwake }

lemma setStarter_over (hClaimed : starter ≠ .claimed) (hLive : starter.live = false)
  (hOwn : starter = .leaving .stopped → s.asked s.run) : Sound (s.setStarter starter) := by
  refine hSound.setStarter hClaimed ?_ hOwn ?_ ?_
  · rw [hLive]
    exact fun h => absurd h (by decide)
  · intro ticket hTicket
    cases starter with
    | selecting => cases hLive
    | _ => cases hTicket
  · rintro ticket rfl
    cases hLive

lemma claim : Sound { s with running := true, starter := .claimed, run := s.run + 1 } := { hSound with
  loaded := by
    intro i run hLoaded
    exact Nat.le_succ_of_le (hSound.loaded i run hLoaded)
  asked := by
    intro run hAsked
    exact Nat.le_succ_of_le (hSound.asked run hAsked)
  fresh := by
    intro _
    cases hAsked : s.asked (s.run + 1) with
    | false => rfl
    | true => exact absurd (hSound.asked _ hAsked) (Nat.not_succ_le_self _)
  flag := nofun
  own := nofun
  issued := nofun
  awake := nofun }

lemma reset (hClaimed : s.starter = .claimed) :
  Sound { s with stopRequested := false, starter := .building } :=
  { hSound with
    fresh := nofun
    flag := fun _ => (hSound.fresh hClaimed).symm
    own := nofun
    issued := nofun
    awake := by
      intro ticket hParked
      cases hParked }

lemma load (i : Nat) : Sound (s.setStopper i (.loaded s.run)) :=
  { hSound with
    loaded := by
      intro j run hLoaded
      by_cases hEq : j = i
      · subst hEq
        simp only [setStopper, update_self, Stopper.loaded.injEq] at hLoaded
        exact Nat.le_of_eq hLoaded.symm
      · simp only [setStopper, update_of_ne hEq] at hLoaded
        exact hSound.loaded j run hLoaded
    stored := by
      intro j run hStored
      by_cases hEq : j = i
      · subst hEq
        simp at hStored
      · simp only [setStopper, update_of_ne hEq] at hStored
        exact hSound.stored j run hStored }

lemma store (hLoaded : s.stoppers i = .loaded run)
  (hOk : s.Timely (.store i)) : Sound (s.store i run) := by
  rcases hOk run hLoaded with ⟨hReset, hInTime⟩
  have hKept : ∀ r, s.asked r → (s.store i run).asked r := by
    intro r hAsked
    by_cases hEq : r = run
    · subst hEq
      simp
    · simp [hEq, hAsked]
  have hNew : ∀ r, (s.store i run).asked r → r = run ∨ s.asked r := by
    intro r hAsked
    by_cases hEq : r = run
    · exact .inl hEq
    · simp only [Core.store, update_of_ne hEq] at hAsked
      exact .inr hAsked
  constructor
  · -- loaded
    intro j r hLoaded'
    by_cases hEq : j = i
    · subst hEq
      simp at hLoaded'
    · simp only [Core.store, setStopper, update_of_ne hEq] at hLoaded'
      exact hSound.loaded j r hLoaded'
  · -- stored
    intro j r hStored
    by_cases hEq : j = i
    · subst hEq
      simp only [Core.store, setStopper, update_self, Stopper.stored.injEq] at hStored
      subst hStored
      simp
    · simp only [Core.store, setStopper, update_of_ne hEq] at hStored
      exact hKept r (hSound.stored j r hStored)
  · -- asked
    intro r hAsked
    rcases hNew r hAsked with rfl | hOld
    · exact hSound.loaded i r hLoaded
    · exact hSound.asked r hOld
  · -- granted
    intro r hGranted
    exact hKept r (hSound.granted r hGranted)
  · -- fresh
    intro hClaimed
    have hNe : s.run ≠ run := fun h => hReset hClaimed h.symm
    have hFresh := hSound.fresh hClaimed
    simp [hNe, hFresh]
  · -- flag
    intro hLive
    rcases hInTime hLive with rfl | hAsked
    · simp
    · exact (hKept s.run hAsked).symm
  · -- own
    intro hLeaving
    exact hKept s.run (hSound.own hLeaving)
  · exact hSound.issued
  · exact hSound.awake

lemma grant (hStored : s.stoppers i = .stored run) : Sound (s.grant i run) := by
  have hOther : ∀ {j : Nat} {stopper : Stopper}, (s.grant i run).stoppers j = stopper →
    stopper ≠ .out → s.stoppers j = stopper := by
    intro j stopper hStopper hBusy
    by_cases hEq : j = i
    · subst hEq
      simp only [Core.grant, setStopper, update_self] at hStopper
      exact absurd hStopper.symm hBusy
    · simpa [Core.grant, hEq] using hStopper
  constructor
  · intro j r hLoaded
    exact hSound.loaded j r (hOther hLoaded (by simp))
  · intro j r hStored'
    exact hSound.stored j r (hOther hStored' (by simp))
  · exact hSound.asked
  · intro r hGranted
    by_cases hEq : r = run
    · subst hEq
      exact hSound.stored i r hStored
    · simp only [Core.grant, update_of_ne hEq] at hGranted
      exact hSound.granted r hGranted
  · exact hSound.fresh
  · exact hSound.flag
  · exact hSound.own
  · intro ticket hTicket
    exact (hSound.issued ticket hTicket).notifyWaiters
  · intro ticket hParked _
    apply Notify.ready_notifyWaiters
    apply hSound.issued
    have hStarter : s.starter = .selecting (.parked ticket) := hParked
    rw [hStarter]
    rfl

end Sound

-- Steps And Runs

lemma sound_step
  {e : Event} (hSound : Sound s) (hOk : s.Timely e) (hStep : Stepped s e s') : Sound s' := by
  cases hStep with
  | refuse | deny => exact hSound
  | claim => exact hSound.claim
  | reset hClaimed => exact hSound.reset hClaimed
  | built hBuilding =>
    exact hSound.setStarter (by simp) (fun _ => by rw [hBuilding]; rfl) (by simp)
      (by simp [Starter.ticket]) (by simp)
  | buildFailed | finish => exact hSound.setStarter_over (by simp) rfl (by simp)
  | create hTop =>
    refine hSound.setStarter (by simp) (fun _ => by rw [hTop]; rfl) (by simp) ?_ (by simp)
    intro ticket hTicket
    cases hTicket
    exact s.notify.issued_notified
  | @see _ hCreated hFlag =>
    refine hSound.setStarter_over (by simp) rfl ?_
    intro _
    rw [← hSound.flag (by rw [hCreated]; rfl)]
    exact hFlag
  | @park ticket hCreated hFlag =>
    have hLive : s.starter.live := by
      rw [hCreated]
      rfl
    refine hSound.setStarter (by simp) (fun _ => hLive) (by simp) ?_ ?_
    · intro ticket' hTicket
      cases hTicket
      apply hSound.issued
      rw [hCreated]
      rfl
    · -- the flag was read behind the ticket: no stop yet
      intro ticket' _ hGranted
      have hAsked := hSound.granted _ hGranted
      rw [← hSound.flag hLive, hFlag] at hAsked
      cases hAsked
  | wake hParked =>
    exact hSound.setStarter (by simp) (fun _ => by rw [hParked]; rfl) (by simp)
      (by simp [Starter.ticket]) (by simp)
  | release =>
    have hOut : Sound (s.setStarter .out) := hSound.setStarter_over (by simp) rfl (by simp)
    exact { hOut with }
  | load => exact hSound.load _
  | store hLoaded => exact hSound.store hLoaded hOk
  | grant hStored => exact hSound.grant hStored

lemma sound_of_reaches (hRun : Reaches step Timely init s) : Sound s :=
  hRun.invariant sound_init (fun hSound hOk hStep => sound_step hSound hOk (stepped_of_step hStep))

-- The Waiter On Its Own

lemma exec_top (hTop : s.starter = .selecting .top) (hFlag : s.stopRequested) :
  exec step s [.create, .check] = some (s.setStarter (.leaving .stopped)) := by
  simp [stepStarter, hTop, hFlag]

variable {ticket : Nat} {waiter : Waiter}

lemma exec_created (hCreated : s.starter = .selecting (.created ticket)) (hFlag : s.stopRequested) :
  exec step s [.check] = some (s.setStarter (.leaving .stopped)) := by
  simp [stepStarter, hCreated, hFlag]

lemma exec_parked (hParked : s.starter = .selecting (.parked ticket))
  (hReady : s.notify.ready ticket) (hFlag : s.stopRequested) :
  exec step s [.wake, .create, .check] = some (s.setStarter (.leaving .stopped)) := by
  simp [stepStarter, hParked, hFlag, hReady]

lemma Sound.returns (hSound : Sound s) (hSelecting : s.starter = .selecting waiter)
  (hGranted : s.granted s.run) : s.Returns := by
  have hFlag : s.stopRequested := by
    rw [hSound.flag (by rw [hSelecting]; rfl)]
    exact hSound.granted _ hGranted
  cases waiter with
  | top =>
    exact ⟨_, _, by decide, exec_top hSelecting hFlag, rfl, rfl⟩
  | created =>
    exact ⟨_, _, by decide, exec_created hSelecting hFlag, rfl, rfl⟩
  | parked ticket =>
    have hReady := hSound.awake ticket hSelecting hGranted
    exact ⟨_, _, by decide, exec_parked hSelecting hReady hFlag, rfl, rfl⟩

lemma selecting_of_waiter
  {events : List Event} (hSelecting : ∃ waiter, s.starter = .selecting waiter)
  (hFlag : s.stopRequested = false) (hWaiter : events.all Event.ofWaiter)
  (hExec : exec step s events = some s') : ∃ waiter, s'.starter = .selecting waiter := by
  induction events generalizing s with
  | nil =>
    cases hExec
    exact hSelecting
  | cons _ _ ih =>
    rcases Option.bind_eq_some_iff.mp hExec with ⟨s₁, hStep, hRest⟩
    rw [List.all_cons, Bool.and_eq_true] at hWaiter
    have hStepped := stepped_of_step hStep
    cases hStepped with
    | create | park | wake =>
      refine ih ?_ ?_ hWaiter.2 hRest
      · exact ⟨_, rfl⟩
      · exact hFlag
    | see _ hSet =>
      rw [hFlag] at hSet
      cases hSet
    | _ => exact absurd hWaiter.1 (by simp [Event.ofWaiter])

lemma not_returns (hSelecting : s.starter = .selecting waiter)
  (hFlag : s.stopRequested = false) : ¬ s.Returns := by
  rintro ⟨events, s', hWaiter, hExec, hStopped, -⟩
  rcases selecting_of_waiter ⟨waiter, hSelecting⟩ hFlag hWaiter hExec with ⟨waiter', hStill⟩
  rw [hStopped] at hStill
  cases hStill

-- Stops That Are Not In Time

/- Set before the reset, the flag is down in `select!`. -/
lemma lost_of_claimed {i : Nat} (hClaimed : s.starter = .claimed) :
  ∃ events s', exec step (s.store i s.run) events = some s' ∧ ¬ Answered s' := by
  let s' : Core :=
    { (s.store i s.run).grant i s.run with
      stopRequested := false
      starter := .selecting (.parked (s.notify.notifyWaiters.notified)) }
  refine ⟨[.notify i, .reset, .built, .create, .check], s', ?_, ?_⟩
  · simp [s', stepStarter, grant, hClaimed]
  · intro hAnswered
    refine absurd (hAnswered.heeded _ rfl ?_) (not_returns (s := s') rfl rfl)
    simp [s', grant]

lemma ended_of_live {i run : Nat} (hSound : Sound s)
  (hLive : s.starter.live) (hLate : run ≠ s.run) (hAsked : s.asked s.run = false) :
  ∃ events s', exec step (s.store i run) events = some s' ∧ ¬ Answered s' := by
  have hNotAsked : (s.store i run).asked s.run = false := by simp [hLate.symm, hAsked]
  have hEnds : ∀ {t : Core}, t.run = s.run →
    t.asked s.run = false → ¬ Answered (t.setStarter (.leaving .stopped)) := by
    intro t hRun hNot hAnswered
    have hOwn := hAnswered.own rfl
    simp only [setStarter, hRun, hNot] at hOwn
    cases hOwn
  cases hStarter : s.starter with
  | out | claimed | leaving => rw [hStarter] at hLive; cases hLive
  | building =>
    let t := (s.store i run).setStarter (.selecting .top)
    refine ⟨[.built, .create, .check], t.setStarter (.leaving .stopped), ?_, hEnds rfl hNotAsked⟩
    have hTop := exec_top (s := t) rfl rfl
    rw [← hTop]
    simp [t, stepStarter, hStarter]
  | selecting waiter =>
    cases waiter with
    | top => exact ⟨_, _, exec_top (s := s.store i run) hStarter rfl, hEnds rfl hNotAsked⟩
    | created => exact ⟨_, _, exec_created (s := s.store i run) hStarter rfl, hEnds rfl hNotAsked⟩
    | parked ticket =>
      let t := (s.store i run).grant i run
      have hReady : t.notify.ready ticket := by
        apply Notify.ready_notifyWaiters
        apply hSound.issued
        rw [hStarter]
        rfl
      have hParked := exec_parked (s := t) hStarter hReady rfl
      refine ⟨.notify i :: [.wake, .create, .check],
        t.setStarter (.leaving .stopped), ?_, hEnds rfl hNotAsked⟩
      rw [← hParked]
      simp [t]

/-
  Stops: in every run of the core in which stops set their flag in time, a stop granted for the
  run in `select!` makes `wait_for_stop` return, and a run that was stopped was asked to stop
  itself.
-/
theorem stops_answered_of_timely
    (hRun : Reaches step Timely init s) :
    Answered s ∧
    ∀ (e : Event) (s' : Core),
      s.step e = some s' →
      ¬ s.Timely e →
      ∃ events s'', exec step s' events = some s'' ∧ ¬ Answered s'' := by
  have hSound := sound_of_reaches hRun
  constructor
  · exact ⟨fun _ hSelecting hGranted => hSound.returns hSelecting hGranted, hSound.own⟩
  · intro e s' hStep hLate
    cases stepped_of_step hStep with
    | @store i run hLoaded =>
      have hBad : ¬ ((s.starter = .claimed → run ≠ s.run) ∧
        (s.starter.live → run = s.run ∨ s.asked s.run)) := by
        intro hGood
        apply hLate
        intro run' hLoaded'
        rw [hLoaded] at hLoaded'
        cases hLoaded'
        exact hGood
      by_cases hClaimed : s.starter = .claimed
      · have hEq : run = s.run := by
          by_contra hNe
          apply hBad
          refine ⟨fun _ => hNe, ?_⟩
          intro hLive
          rw [hClaimed] at hLive
          cases hLive
        subst hEq
        exact lost_of_claimed hClaimed
      · have hFails : s.starter.live ∧ run ≠ s.run ∧ s.asked s.run = false := by
          simp only
            [hClaimed, false_implies, true_and, Classical.not_imp, not_or, Bool.not_eq_true] at hBad
          exact hBad
        exact ended_of_live hSound hFails.1 hFails.2.1 hFails.2.2
    | _ => exact absurd trivial hLate

def stopParked : List Event :=
  [.claim, .reset, .built, .create, .check, .load 0, .store 0, .notify 0]

theorem stops_answered_parked :
  ∃ s : Core, s.granted s.run = true ∧ s.starter = .selecting (.parked 0) ∧ s.Returns := by
  rcases exists_reaches step Timely init (fun s => s.granted s.run &&
    decide (s.starter = .selecting (.parked 0)))
    stopParked (by decide +kernel) (by decide +kernel) with
    ⟨s, hRun, hEnd⟩
  rw [Bool.and_eq_true, decide_eq_true_eq] at hEnd
  exact ⟨s, hEnd.1, hEnd.2, (stops_answered_of_timely hRun).1.heeded _ hEnd.2 hEnd.1⟩

/- Granted between the claim and the reset. -/
theorem stop_before_reset_is_lost : ¬ ∀ s : Core, Reaches step Always init s → Answered s := by
  intro hAll
  rcases exists_reaches step Always init
    (fun s => s.granted s.run && !s.stopRequested && decide (s.starter = .selecting (.parked 1)))
    [.claim, .load 0, .store 0, .notify 0, .reset, .built, .create, .check]
    (taken_always _ _ _) (by decide +kernel) with
    ⟨s, hRun, hEnd⟩
  simp only [Bool.and_eq_true, Bool.not_eq_true', decide_eq_true_eq] at hEnd
  rcases hEnd with ⟨⟨hGranted, hFlag⟩, hParked⟩
  exact not_returns hParked hFlag ((hAll s hRun).heeded _ hParked hGranted)

end Core

end Kourosh.Ffi
