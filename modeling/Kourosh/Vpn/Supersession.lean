import Kourosh.Vpn.Reconnect

/-
  Native sessions that are superseded.

  The finally block of a native session that a newer one has superseded should leave alone what
  the newer session owns: the flag `connected`, the TUN and the service.

  Correctness is proven by:
    * `superseded_spares_of_orderly`
-/

-- Finally Blocks

namespace Kourosh.Supersession

open Vpn (Transport Thread Flag Service)
open Run (Reaches Always)
open List Threads

def InFinally (generation : Nat) (s : State) : Prop :=
  match s.queues (.on .worker) with
  | .act (.plain (some owner) _) _ :: _ => owner = generation
  | _ => False

instance (generation : Nat) (s : State) : Decidable (InFinally generation s) := by
  unfold InFinally
  split <;> infer_instance

def Spares (s s' : Service) : Prop := s'.flags .connected = s.flags .connected ∧
  s'.tun = s.tun ∧ s'.alive = s.alive

instance (s s' : Service) : Decidable (Spares s s') := by
  unfold Spares
  infer_instance

def Statement.Claims (statement : Statement) : Prop := statement = .plain none .newGeneration

instance : DecidablePred Statement.Claims := fun statement =>
  inferInstanceAs (Decidable (statement = .plain none .newGeneration))

def Clear : Program → Prop
| .done => True
| .act (.plain (some _) _) _ => False
| .act (.plain none act) next => act = .newGeneration ∨ ∀ v, Clear (next v)
| .act (.use _) next => ∀ v, Clear (next v)
| .call next => ∀ ok, Clear (next ok)
| .wait next => Clear next
| .fork _ job next => Clear job ∧ Clear next

def AtCheck : Program → Prop
| .act (.plain (some _) (.newerThan _)) _ => True
| _ => False

instance : DecidablePred AtCheck := by
  intro program
  unfold AtCheck
  split <;> infer_instance

/-
  When a session is claimed, every other job is past the finally blocks of earlier sessions, or at
  their check.
-/
def Orderly (s : State) : Move → Prop
| .run thread _ =>
  s.Makes Statement.Claims (.on thread) → s.Others (.on thread) fun job => Clear job ∨ AtCheck job
| _ => True

-- Marks

/- The marks ahead of a job, up to a claim of its own: those of one session, or none. -/
def Labels : Option Nat → Program → Prop
| _, .done => True
| owner, .act (.plain none act) next =>
  if act = .newGeneration then ∀ v, Labels (some v) (next v)
  else ∀ v, Labels owner (next v)
| owner, .act (.plain (some generation) act) next =>
  owner = some generation ∧ act ≠ .newGeneration ∧ (∀ g, act = .newerThan g →
    g = generation ∧ Labels none (next 1)) ∧
    ∀ v, Labels owner (next v)
| owner, .act (.use _) next => ∀ v, Labels owner (next v)
| owner, .call next => ∀ ok, Labels owner (next ok)
| owner, .wait next => Labels owner next
| owner, .fork _ job next => Labels owner job ∧ Labels owner next

lemma labels_lift_none (owner : Option Nat) (program : Vpn.Program) :
  Labels owner (lift none program) := by
  induction program generalizing owner with
  | done => trivial
  | act act _ ih =>
    show if act = .newGeneration then _ else _
    split
    · intro v
      exact ih v (some v)
    · intro v
      exact ih v owner
  | call _ ih =>
    intro ok
    exact ih ok owner
  | wait _ ih => exact ih owner
  | fork _ _ _ ihJob ihNext => exact ⟨ihJob owner, ihNext owner⟩

variable {owner : Option Nat} {act : Vpn.Act} {flag : Flag} {ok value : Bool}
variable {generation : Nat} {program : Program} {s s' : Service}
variable {statement : Statement} {next : Nat → Program}

lemma labels_andThen {last : Program} (hLast : ∀ owner, Labels owner last)
  (program : Vpn.Program) : Labels owner ((lift none program).andThen last) := by
  induction program generalizing owner with
  | done => exact hLast owner
  | act act _ ih =>
    show if act = .newGeneration then _ else _
    split
    all_goals
      intro v
      exact ih v
  | call _ ih =>
    intro ok
    exact ih ok
  | wait _ ih => exact ih
  | fork _ job _ _ ihNext => exact ⟨labels_lift_none owner job, ihNext⟩

lemma labels_perform {next : Program} (hAct : act ≠ .newGeneration)
  (hNext : Labels owner next) : Labels owner (perform act next) := by
  show if act = .newGeneration then _ else _
  rw [if_neg hAct]
  intro v
  exact hNext

lemma labels_set {next : Program} (hNext : Labels owner next) :
  Labels owner (set flag value next) := labels_perform (by simp) hNext

section

variable {next : Bool → Program}

lemma labels_ask (hAct : act ≠ .newGeneration)
  (hNext : ∀ value, Labels owner (next value)) : Labels owner (ask act next) := by
  show if act = .newGeneration then _ else _
  rw [if_neg hAct]
  intro v
  exact hNext (v == 1)

lemma labels_get (hNext : ∀ value, Labels owner (next value)) :
  Labels owner (get flag next) := labels_ask (by simp) hNext

lemma labels_call (hNext : ∀ ok, Labels owner (next ok)) : Labels owner (.call next) := hNext

end

-- The Marks Of A Session

def Ordinary (act : Vpn.Act) : Prop :=
  act ≠ .newGeneration ∧ ∀ generation, act ≠ .newerThan generation

lemma labels_lift_some {program : Vpn.Program} (hOrdinary : program.Only Ordinary) :
  Labels (some generation) (lift (some generation) program) := by
  induction program with
  | done => trivial
  | act _ _ ih =>
    rcases hOrdinary with ⟨⟨hClaim, hCheck⟩, hNext⟩
    refine ⟨rfl, hClaim, ?_, fun v => ih v (hNext v)⟩
    intro g hSame
    exact absurd hSame (hCheck g)
  | call _ ih =>
    intro ok
    exact ih ok (hOrdinary ok)
  | wait _ ih => exact ih hOrdinary
  | fork _ _ _ ihJob ihNext => exact ⟨ihJob hOrdinary.1, ihNext hOrdinary.2⟩

lemma ordinary_ask {next : Bool → Vpn.Program} (hAct : Ordinary act)
  (hNext : ∀ value, (next value).Only Ordinary) :
  (Vpn.ask act next).Only Ordinary := ⟨hAct, fun v => hNext (v == 1)⟩

lemma ordinary_get {next : Bool → Vpn.Program} (hNext : ∀ value, (next value).Only Ordinary) :
  (Vpn.get flag next).Only Ordinary := ordinary_ask ⟨by simp, by simp⟩ hNext

lemma ordinary_perform {next : Vpn.Program} (hAct : Ordinary act) (hNext : next.Only Ordinary) :
  (Vpn.perform act next).Only Ordinary := ⟨hAct, fun _ => hNext⟩

lemma ordinary_set {next : Vpn.Program} (hNext : next.Only Ordinary) :
  (Vpn.set flag value next).Only Ordinary :=
  ordinary_perform ⟨by simp, by simp⟩ hNext

lemma ordinary_stopSelf : (Vpn.perform .stopSelf .done).Only Ordinary :=
  ordinary_perform ⟨by simp, by simp⟩ trivial

lemma ordinary_scheduleAutoReconnect : Vpn.scheduleAutoReconnect.Only Ordinary := by
  apply ordinary_get
  intro stopped
  split
  · trivial
  · exact ordinary_set trivial

lemma ordinary_nativeUnsealed : Vpn.nativeUnsealed.Only Ordinary := by
  apply ordinary_get
  intro dropped
  split
  · apply ordinary_get
    intro enabled
    split
    · apply ordinary_get
      intro stopped
      apply ordinary_set
      split
      · exact ordinary_scheduleAutoReconnect
      · exact ordinary_stopSelf
    · exact ordinary_set ordinary_stopSelf
  · exact ordinary_set ordinary_stopSelf

lemma ordinary_sealWithKillSwitch
  (armed : Bool) : (Vpn.sealWithKillSwitch armed fun _ => .done).Only Ordinary := by
  unfold Vpn.sealWithKillSwitch
  split
  · apply ordinary_set
    apply ordinary_perform ⟨by simp, by simp⟩
    exact ordinary_perform ⟨by simp, by simp⟩ trivial
  · trivial

lemma ordinary_lifecycle (armed : Bool) : (Vpn.ask (.take .reconnectRequested) fun pending =>
  if pending then .done
  else if armed then
    Vpn.get .stopRequested fun stopped =>
      if stopped then Vpn.nativeUnsealed
      else Vpn.sealWithKillSwitch armed fun _ => .done
  else Vpn.nativeUnsealed).Only Ordinary := by
  apply ordinary_ask ⟨by simp, by simp⟩
  intro pending
  split
  · trivial
  · split
    · apply ordinary_get
      intro stopped
      split
      · exact ordinary_nativeUnsealed
      · exact ordinary_sealWithKillSwitch armed
    · exact ordinary_nativeUnsealed

section

variable (generation : Nat)

lemma labels_nativeFinally : Labels (some generation) (nativeFinally generation) := by
  refine ⟨rfl, by simp, by simp, fun v => ?_⟩
  refine ⟨rfl, by simp, by simp, fun _ => ?_⟩
  refine ⟨rfl, by simp, by simp, fun _ => ?_⟩
  refine ⟨rfl, by simp, ?_, fun newer => ?_⟩
  · intro g hCheck
    cases hCheck
    exact ⟨rfl, trivial⟩
  · have hRest : Labels (some generation) (lift (some generation) _) :=
      labels_lift_some (ordinary_lifecycle (v == 1))
    cases hNewer : newer == 1 with
    | true =>
      simp only [hNewer, if_true]
      trivial
    | false =>
      simp only [hNewer, Bool.false_eq_true, if_false]
      exact hRest

lemma labels_nativeCore : Labels (some generation) (nativeCore generation) := by
  have hBack : Labels (some generation) (get .stopRequested fun stopped =>
    set .nativeExitWasUnexpected (!stopped) (nativeFinally generation)) := by
    apply labels_get
    intro stopped
    exact labels_set (labels_nativeFinally generation)
  exact hBack

lemma labels_nativeJob : Labels (some generation) (nativeJob generation) := by
  apply labels_call
  intro prepared
  split
  · apply labels_perform (by simp)
    exact labels_set (labels_nativeCore generation)
  · exact labels_set (labels_nativeFinally generation)

lemma labels_startTransport : Labels (some generation) (startTransport generation) := by
  apply labels_ask (by simp)
  intro chain
  split
  · exact labels_lift_none _ _
  · apply labels_ask (by simp)
    intro shard
    split
    · exact labels_lift_none _ _
    · apply labels_ask (by simp)
      intro tor
      split
      · exact labels_lift_none _ _
      · apply labels_ask (by simp)
        intro psiphon
        split
        · apply labels_set
          apply labels_set
          exact ⟨labels_lift_none _ _, trivial⟩
        · exact ⟨labels_nativeJob generation, trivial⟩

end

lemma labels_use {next : Program}
  (config : Option Transport) (hNext : Labels owner next) : Labels owner (use config next) := by
  cases config with
  | none => exact hNext
  | some =>
    intro v
    exact hNext

section

variable (owner : Option Nat)

lemma labels_startTunnel (config : Option Transport) : Labels owner (startTunnel config) := by
  apply labels_ask (by simp)
  intro claimed
  split
  · intro generation
    apply labels_set
    apply labels_set
    apply labels_call
    intro parsed
    split
    · apply labels_use
      apply labels_set
      apply labels_set
      exact labels_startTransport generation
    · exact labels_set (labels_lift_none _ _)
  · trivial

lemma labels_reconnect : Labels owner reconnect := by
  apply labels_get
  intro stopped
  split
  · trivial
  · apply labels_get
    intro up
    split
    · trivial
    · exact labels_startTunnel owner none

lemma labels_quickRestart : Labels owner quickRestart := by
  apply labels_call
  intro running
  split
  · exact labels_set trivial
  · apply labels_get
    intro up
    split
    · exact labels_set trivial
    · apply labels_get
      intro stopped
      split
      · exact labels_set trivial
      · exact labels_startTunnel owner none

lemma labels_requestQuickReconnect : Labels owner requestQuickReconnect := by
  apply labels_set
  apply labels_andThen
  intro owner
  exact ⟨labels_quickRestart owner, trivial⟩

lemma labels_reconnectAction : Labels owner reconnectAction := by
  apply labels_get
  intro up
  split
  · exact labels_requestQuickReconnect owner
  · trivial

lemma labels_rotationDue : Labels owner rotationDue := by
  apply labels_get
  intro stopped
  split
  · trivial
  · exact labels_reconnectAction owner

end

lemma labels_program (entry : Entry) : Labels none entry.program := by
  cases entry with
  | service entry =>
    cases entry with
    | reconnect => exact labels_reconnect none
    | _ => exact labels_lift_none none _
  | connect transport => exact labels_set (labels_set (labels_startTunnel none (some transport)))
  | reconnect => exact labels_reconnectAction none
  | rotation => exact labels_rotationDue none

-- Jobs And The Newest Session

def Late (newest : Nat) (program : Program) : Prop := ∃ generation next,
  program = .act (.plain (some generation) (.newerThan generation)) next ∧
    generation < newest ∧ Labels none (next 1)

def Fits (s : Service) (program : Program) : Prop := Labels none program ∨
  Labels (some s.sessionGeneration) program ∨ Late s.sessionGeneration program

lemma labels_none_of_clear
  (hLabels : Labels owner program) (hClear : Clear program) : Labels none program := by
  induction program with
  | done => trivial
  | act statement next ih =>
    cases statement with
    | use =>
      intro v
      exact ih v (hLabels v) (hClear v)
    | plain mark act =>
      cases mark with
      | some => exact hClear.elim
      | none =>
        unfold Labels at hLabels ⊢
        split
        next hClaim =>
          rw [if_pos hClaim] at hLabels
          exact hLabels
        next hOther =>
          rw [if_neg hOther] at hLabels
          intro v
          exact ih v (hLabels v) (hClear.resolve_left hOther v)
  | call _ ih =>
    intro ok
    exact ih ok (hLabels ok) (hClear ok)
  | wait _ ih => exact ih hLabels hClear
  | fork _ _ _ ihJob ihNext => exact ⟨ihJob hLabels.1 hClear.1, ihNext hLabels.2 hClear.2⟩

lemma late_of_atCheck {newest : Nat} (hLabels : Labels (some newest) program)
  (hCheck : AtCheck program) : Late (newest + 1) program := by
  unfold AtCheck at hCheck
  split at hCheck
  next generation g next =>
    rcases hLabels with ⟨hOwner, _, hBehind, _⟩
    rcases hBehind g rfl with ⟨hSame, hNone⟩
    cases hOwner
    exact ⟨newest, next, by rw [hSame], Nat.lt_succ_self _, hNone⟩
  · exact hCheck.elim

lemma fits_of_passed (hClaimed : s'.sessionGeneration = s.sessionGeneration + 1)
  (hFits : Fits s program) (hPassed : Clear program ∨ AtCheck program) : Fits s' program := by
  rcases hFits with hNone | hOwn | ⟨g, next, hJob, _, hNext⟩
  · exact .inl hNone
  · rcases hPassed with hClear | hCheck
    · exact .inl (labels_none_of_clear hOwn hClear)
    · rw [Fits, hClaimed]
      exact .inr (.inr (late_of_atCheck hOwn hCheck))
  · refine .inr (.inr ⟨g, next, hJob, ?_, hNext⟩)
    omega

lemma sessionGeneration_exec (hOther : ∀ owner, statement ≠ .plain owner .newGeneration)
  (s : Service) : (statement.exec s).2.sessionGeneration = s.sessionGeneration := by
  cases statement with
  | use => rfl
  | plain owner act =>
    cases act with
    | newGeneration => exact absurd rfl (hOther owner)
    | _ => rfl

lemma newerThan_of_lt (hOld : generation < s.sessionGeneration) :
  Statement.exec (.plain owner (.newerThan generation)) s = (1, s) := by
  have hNewer : s.sessionGeneration ≠ generation := by omega
  simp [Statement.exec, Vpn.Act.exec, hNewer]

-- Whole Runs

lemma Fits.of_generation_eq (hSame : s'.sessionGeneration = s.sessionGeneration)
  (hFits : Fits s program) : Fits s' program := by
  rw [Fits, hSame]
  exact hFits

lemma labels_next (hOther : statement ≠ .plain none .newGeneration)
  (hLabels : Labels owner (.act statement next)) (v : Nat) : Labels owner (next v) := by
  cases statement with
  | use => exact hLabels v
  | plain mark =>
    cases mark with
    | some => exact hLabels.2.2.2 v
    | none =>
      rw [Labels, if_neg (fun hClaim => hOther (by rw [hClaim]))] at hLabels
      exact hLabels v

lemma labels_claim (hLabels : Labels owner (.act (.plain none .newGeneration) next))
  (v : Nat) : Labels (some v) (next v) := by
  rw [Labels, if_pos rfl] at hLabels
  exact hLabels v

lemma unmarked_of_fits
  (hFits : Fits s (.act (.plain owner .newGeneration) next)) : owner = none := by
  cases owner with
  | none => rfl
  | some =>
    rcases hFits with hNone | hOwn | ⟨g, _, hJob, _, _⟩
    · exact absurd rfl hNone.2.1
    · exact absurd rfl hOwn.2.1
    · cases hJob

lemma fits_next (hFits : Fits s (.act statement next)) :
  Fits (statement.exec s).2 (next (statement.exec s).1) := by
  by_cases hClaim : statement = .plain none .newGeneration
  · subst hClaim
    -- the session of the claim is the newest one
    rcases hFits with hNone | hOwn | ⟨g, _, hJob, _, _⟩
    · exact .inr (.inl (labels_claim hNone _))
    · exact .inr (.inl (labels_claim hOwn _))
    · cases hJob
  · have hSame : (statement.exec s).2.sessionGeneration = s.sessionGeneration := by
      apply sessionGeneration_exec
      intro owner hStatement
      subst hStatement
      exact hClaim (by rw [unmarked_of_fits hFits])
    apply Fits.of_generation_eq hSame
    rcases hFits with hNone | hOwn | ⟨g, _, hJob, hOld, hNext⟩
    · exact .inl (labels_next hClaim hNone _)
    · exact .inr (.inl (labels_next hClaim hOwn _))
    · cases hJob
      rw [newerThan_of_lt hOld]
      exact .inl hNext

lemma fits_others {s : State} {thread : Thread} {rest : List Program}
  (hFits : s.All (Fits s.shared)) (hOrderly : Orderly s (.run thread ok))
  (hQueue : s.queues (.on thread) = .act statement next :: rest) :
  s.Others (.on thread) (Fits (statement.exec s.shared).2) := by
  have hHead := (all_tail hFits hQueue).1
  have hOthers := hFits.others (.on thread)
  by_cases hClaim : statement = .plain none .newGeneration
  · have hPassed := hOrderly (by
      rw [Threads.Makes, hQueue]
      exact hClaim)
    apply (hOthers.and hPassed).imp
    rintro job ⟨hFit, hPast⟩
    subst hClaim
    exact fits_of_passed rfl hFit hPast
  · apply hOthers.imp
    intro job hFit
    apply hFit.of_generation_eq
    apply sessionGeneration_exec
    intro owner hStatement
    subst hStatement
    exact hClaim (by rw [unmarked_of_fits hHead])

lemma fits_step {s s' : State} {move : Move} (hFits : s.All (Fits s.shared))
  (hOrderly : Orderly s move) (hStep : step s move = some s') : s'.All (Fits s'.shared) := by
  cases move with
  | run _ ok =>
    apply fits_run hFits hStep
    · rintro next (hNone | hOwn | ⟨_, _, hJob, _, _⟩)
      · exact .inl (hNone ok)
      · exact .inr (.inl (hOwn ok))
      · cases hJob
    · rintro next (hNone | hOwn | ⟨_, _, hJob, _, _⟩)
      · exact .inl hNone
      · exact .inr (.inl hOwn)
      · cases hJob
    · rintro other job next (hNone | hOwn | ⟨_, _, hJob, _, _⟩)
      · exact ⟨.inl hNone.1, .inl hNone.2⟩
      · exact ⟨.inr (.inl hOwn.1), .inr (.inl hOwn.2)⟩
      · cases hJob
    · intro statement next rest hQueue
      have hHead := (all_tail hFits hQueue).1
      exact ⟨fits_next hHead, fits_others hFits hOrderly hQueue⟩
  | enter entry =>
    simp only [step] at hStep
    split at hStep
    · cases hStep
      have hSame : (entry.arrive s.shared).sessionGeneration = s.shared.sessionGeneration := by
        cases entry with
        | service entry => cases entry <;> rfl
        | _ => rfl
      apply all_enqueue
      · intro place job hMem
        exact (hFits place job hMem).of_generation_eq hSame
      · exact .inl (labels_program entry)
    · cases hStep
  | due =>
    simp only [step] at hStep
    split at hStep
    · cases hStep
    next job rest hQueue =>
      cases hStep
      rcases all_tail hFits hQueue with ⟨hJob, hRest⟩
      exact all_enqueue (all_resume hFits hRest) hJob _

lemma fits_of_reaches {transport : Transport} {killSwitch autoReconnect : Bool}
  {s : State} (hRun : Reaches step Orderly (fresh transport killSwitch autoReconnect) s) :
  s.All (Fits s.shared) := by
  apply hRun.invariant (I := fun s => s.All (Fits s.shared))
  · exact nofun
  · intro s s' move hFits hOrderly hStep
    exact fits_step hFits hOrderly hStep

lemma spares_of_fits {s s' : State} (hFits : s.All (Fits s.shared))
  (hFinally : InFinally generation s) (hNewer : generation < s.shared.sessionGeneration)
  (hStep : step s (.run .worker ok) = some s') : Spares s.shared s'.shared := by
  unfold InFinally at hFinally
  split at hFinally
  next owner act next rest hQueue =>
    rcases (all_tail hFits hQueue).1 with hNone | hOwn | ⟨g, _, hJob, hOld, _⟩
    · exact absurd hNone.1 (by simp)
    · have hSame := Option.some.inj hOwn.1
      omega
    · cases hJob
      simp only [step, run, hQueue, newerThan_of_lt hOld] at hStep
      cases hStep
      exact ⟨rfl, rfl, rfl⟩
  · exact hFinally.elim

/-
  In every run whose claims are orderly, the finally block of a session that is no longer the
  newest one changes nothing that the newest session owns.
-/
theorem superseded_spares_of_orderly
    {transport : Transport}
    {killSwitch autoReconnect ok : Bool}
    {generation : Nat}
    {s s' : State}
    (hRun : Reaches step Orderly (fresh transport killSwitch autoReconnect) s)
    (hFinally : InFinally generation s)
    (hNewer : generation < s.shared.sessionGeneration)
    (hStep : step s (.run .worker ok) = some s') :
    Spares s.shared s'.shared :=
  spares_of_fits (fits_of_reaches hRun) hFinally hNewer hStep

def Calm (s : State) : Move → Prop
| .run thread _ => s.Makes Statement.Claims (.on thread) → s.Others (.on thread) AtCheck
| _ => True

instance (s : State) (move : Move) : Decidable (Calm s move) := by
  cases move <;> unfold Calm <;> infer_instance

lemma orderly_of_calm (s : State) (move : Move) (hCalm : Calm s move) : Orderly s move := by
  cases move with
  | run =>
    intro hClaims
    exact (hCalm hClaims).imp fun job hCheck => .inr hCheck
  | enter | due => trivial

def broughtUp : List Move :=
  .enter (.connect .native) :: replicate 16 (.run .main true) ++ replicate 3 (.run .worker true)

/-
  A quick reconnect: the restart claims its session between the reset of `connected` and the check
  behind it.
-/
theorem quick_reconnect_spared : ∃ s s' :
  State, InFinally 1 s ∧ s.shared.sessionGeneration = 2 ∧ s.shared.flags .connected = true ∧
  step s (.run .worker true) = some s' ∧ Spares s.shared s'.shared := by
  let moves : List Move := broughtUp ++ .enter .reconnect :: replicate 10 (.run .main true) ++
    replicate 6 (.run .worker true) ++
    .due :: replicate 2 (.run .scheduler false) ++
    replicate 15 (.run .scheduler true)
  have hTaken : Run.Taken step Calm (fresh .native false true) moves := by decide +kernel
  rcases Run.exists_reaches step Calm (fresh .native false true) (fun s : State =>
        decide (InFinally 1 s ∧ s.shared.sessionGeneration = 2 ∧ s.shared.flags .connected) &&
          (step s (.run .worker true)).isSome)
      moves hTaken (by decide +kernel) with
    ⟨s, hRun, hEnd⟩
  rw [Bool.and_eq_true, decide_eq_true_iff] at hEnd
  rcases hEnd with ⟨⟨hFinally, hTwo, hUp⟩, hSome⟩
  rcases Option.isSome_iff_exists.mp hSome with ⟨s', hStep⟩
  exact ⟨s, s', hFinally, hTwo, hUp, hStep, superseded_spares_of_orderly (hRun.mono orderly_of_calm)
    hFinally (by omega) hStep⟩

/- The watchdog gives up a session whose core takes long to end. -/
theorem reconnect_disconnects_newer :
  ¬ ∀ (transport : Transport) (killSwitch autoReconnect ok : Bool) (generation :
  Nat) (s s' : State), Reaches step Always (fresh transport killSwitch autoReconnect) s →
  InFinally generation s → generation < s.shared.sessionGeneration →
  step s (.run .worker ok) = some s' → Spares s.shared s'.shared := by
  intro hAll
  let moves : List Move := broughtUp ++ .enter (.service .watchdog) ::
    replicate 21 (.run .scheduler false) ++
    .enter (.service .reconnect) ::
    replicate 15 (.run .scheduler true) ++
    replicate 5 (.run .worker true)
  rcases Run.exists_reaches step Always (fresh .native false true) (fun s : State =>
        decide (InFinally 1 s ∧ s.shared.sessionGeneration = 2 ∧ s.shared.flags .connected) &&
          (step s (.run .worker true)).any fun s' => !s'.shared.flags .connected)
      moves (Run.taken_always step _ moves)
      (by decide +kernel) with
    ⟨s, hRun, hEnd⟩
  rw [Bool.and_eq_true, decide_eq_true_iff] at hEnd
  rcases hEnd with ⟨⟨hFinally, _, hUp⟩, hAny⟩
  cases hStep : step s (.run .worker true) with
  | none =>
    rw [hStep] at hAny
    cases hAny
  | some s' =>
    rw [hStep] at hAny
    have hSpares := hAll .native false true true 1 s s' hRun hFinally (by omega) hStep
    have hDown : (!s'.shared.flags .connected) := hAny
    rw [hSpares.1, hUp] at hDown
    cases hDown

end Kourosh.Supersession
