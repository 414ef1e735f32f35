import Kourosh.Vpn.Service

/-
  What the kill switch's seal survives.

  Once a drop has put up a blocking TUN, the service owes a TUN: its handle has to stay a live
  one, and the service must not be stopped, until a session connects or the user lets it go.

  Correctness is proven by:
    * `held_of_reaches`
-/

-- The Seal

namespace Kourosh.Vpn

open Run
open List

def Service.Owed (s : Service) : Prop := s.owed = true

def Service.Sealed (s : Service) : Prop := s.tun.isSome = true ∧ s.alive = true

def Held (s : State) : Prop := s.shared.Owed → s.shared.Sealed

def Act.Seals (act : Act) : Prop := act = .block true

def Entry.reportsLoss : Entry → Bool
| .psiphonExiting => true
| .outerLegEnded => true
| .failed _ => true
| _ => false

def Undisturbed (s : State) : Move → Prop
| .run thread ok => s.Calm thread ok = true
| .enter entry => entry.reportsLoss = false

def SealsAlone (s : State) : Move → Prop
| .run thread _ => s.Makes Act.Seals thread → s.shared.alive = true ∧ s.Alone thread
| .enter _ => True

def Careful (s : State) (m : Move) : Prop := (s.shared.Owed → Undisturbed s m) ∧
  (¬ s.shared.Owed → SealsAlone s m)

instance (s : Service) : Decidable s.Owed := inferInstanceAs (Decidable (s.owed = true))

instance (s : Service) : Decidable s.Sealed := inferInstanceAs
  (Decidable (s.tun.isSome = true ∧ s.alive = true))

instance (s : State) : Decidable (Held s) := inferInstanceAs
  (Decidable (s.shared.Owed → s.shared.Sealed))

instance : DecidablePred Act.Seals := fun act => inferInstanceAs (Decidable (act = .block true))

instance (s : State) : (m : Move) → Decidable (Undisturbed s m)
| .run thread ok => inferInstanceAs (Decidable (s.Calm thread ok = true))
| .enter entry => inferInstanceAs (Decidable (entry.reportsLoss = false))

instance (s : State) : (m : Move) → Decidable (SealsAlone s m)
| .run thread _ =>
  inferInstanceAs (Decidable (s.Makes Act.Seals thread → s.shared.alive = true ∧ s.Alone thread))
| .enter _ => inferInstanceAs (Decidable True)

instance (s : State) (m : Move) : Decidable (Careful s m) :=
  inferInstanceAs (Decidable ((s.shared.Owed → Undisturbed s m) ∧
    (¬ s.shared.Owed → SealsAlone s m)))

-- Statements That Keep It

abbrev Keeps (p : Program) : Prop := Job.Keeps Act.exec Service.Owed Service.Sealed p

abbrev Behind (p : Program) : Prop := Job.Behind Act.exec Service.Owed Service.Sealed Act.Seals p

def Act.touches : Act → Bool
| .closeTun => true
| .establish => true
| .block _ => true
| .stopSelf => true
| .report => true
| .userStop => true
| .switchOff => true
| _ => false

variable {act : Act} {next : Bool → Program} {flag : Flag} {b value : Bool}
variable {no yes : Program} {thread : Thread} {s s' : State} {otherwise : Program} {job : Program}

attribute [local simp] Entry.program killSwitchArmed

lemma sealed_of_not_touches (hOther : act.touches = false) (s : Service) :
  ((act.exec s).2.Sealed ↔ s.Sealed) ∧ (act.exec s).2.owed = s.owed := by
  cases act <;>
    first
    | exact ⟨Iff.rfl, rfl⟩
    | cases hOther

lemma keeps_act {next : Nat → Program} (hOther : act.touches = false)
  (hNext : ∀ v, Keeps (next v)) : Keeps (.act act next) := by
  intro s _ hSealed _
  exact ⟨(sealed_of_not_touches hOther s).1.mpr hSealed, hNext _⟩

lemma keeps_ask (hOther : act.touches = false) (hNext : ∀ b, Keeps (next b)) :
  Keeps (ask act next) := keeps_act hOther fun _ => hNext _

lemma keeps_get (hNext : ∀ b, Keeps (next b)) : Keeps (get flag next) := keeps_ask rfl hNext

lemma keeps_set {next : Program} (hNext : Keeps next) :
  Keeps (set flag value next) := keeps_act rfl fun _ => hNext

lemma keeps_establish {next : Program} (hNext : Keeps next) : Keeps (perform .establish next) := by
  intro s _ hSealed _
  exact ⟨⟨rfl, hSealed.2⟩, hNext⟩

lemma keeps_release {next : Nat → Program}
  (hRelease : ∀ s, (act.exec s).2.owed = false) : Keeps (.act act next) := by
  intro s _ _ hOwed
  rw [Service.Owed, hRelease] at hOwed
  cases hOwed

lemma keeps_ite (hYes : Keeps yes) (hNo : Keeps no) : Keeps (if b then yes else no) := by
  cases b
  · exact hNo
  · exact hYes

lemma keeps_call (hNext : Keeps (next true)) : Keeps (.call next) := hNext

-- Methods That Keep It

lemma keeps_done : Keeps .done := trivial

lemma keeps_willAutoReconnect (hNext : ∀ b, Keeps (next b)) : Keeps (willAutoReconnect next) := by
  apply keeps_get
  intro enabled
  apply keeps_ite
  · exact keeps_get fun stopped => hNext _
  · exact hNext false

lemma keeps_scheduleAutoReconnect : Keeps scheduleAutoReconnect := by
  apply keeps_get
  intro stopped
  exact keeps_ite keeps_done (keeps_set keeps_done)

lemma keeps_scheduleIfWanted (hOtherwise : Keeps otherwise) :
  Keeps (scheduleIfWanted otherwise) := by
  apply keeps_willAutoReconnect
  intro will
  exact keeps_ite keeps_scheduleAutoReconnect hOtherwise

lemma keeps_report {next : Program} : Keeps (perform .report next) := keeps_release fun _ => rfl

lemma keeps_watchdogTick : Keeps watchdogTick := by
  apply keeps_get
  intro stopped
  apply keeps_ite keeps_done
  apply keeps_get
  intro left
  apply keeps_ite keeps_done
  apply keeps_get
  intro up
  exact keeps_ite keeps_done keeps_done

lemma keeps_startPsiphonTunnel : Keeps startPsiphonTunnel := keeps_act rfl fun _ => keeps_done

lemma keeps_nativeJob (generation : Nat) : Keeps (nativeJob generation) :=
  keeps_establish (keeps_set trivial)

lemma keeps_psiphonJob : Keeps psiphonJob := keeps_establish keeps_startPsiphonTunnel

lemma keeps_chainJob : Keeps chainJob := keeps_establish keeps_startPsiphonTunnel

lemma keeps_routedJob : Keeps routedJob := keeps_establish (keeps_set keeps_report)

lemma keeps_fork (hJob : Keeps job) (thread : Thread) :
  Keeps (.fork thread job .done) := ⟨hJob, keeps_done⟩

lemma keeps_startTransport (generation : Nat) : Keeps (startTransport generation) := by
  apply keeps_ask rfl
  intro chain
  apply keeps_ite
  · exact keeps_set (keeps_set (keeps_fork keeps_chainJob _))
  apply keeps_ask rfl
  intro shard
  apply keeps_ite (keeps_fork keeps_routedJob _)
  apply keeps_ask rfl
  intro tor
  apply keeps_ite (keeps_fork keeps_routedJob _)
  apply keeps_ask rfl
  intro psiphon
  apply keeps_ite
  · exact keeps_set (keeps_set (keeps_fork keeps_psiphonJob _))
  · exact keeps_fork (keeps_nativeJob generation) _

lemma keeps_startTunnel : Keeps startTunnel := by
  apply keeps_ask rfl
  intro claimed
  refine keeps_ite ?_ keeps_done
  apply keeps_act rfl
  intro generation
  exact keeps_set (keeps_set (keeps_set (keeps_set (keeps_startTransport generation))))

lemma keeps_reconnect : Keeps reconnect := by
  apply keeps_get
  intro stopped
  apply keeps_ite keeps_done
  apply keeps_get
  intro up
  exact keeps_ite keeps_done keeps_startTunnel

lemma keeps_onAvailable : Keeps onAvailable := by
  apply keeps_willAutoReconnect
  intro will
  refine keeps_ite ?_ keeps_done
  apply keeps_get
  intro up
  exact keeps_ite keeps_done (keeps_set keeps_done)

lemma keeps_tunMissing (hNo : Keeps no) : Keeps (ask .tunMissing fun missing =>
  if missing then yes else no) := by
  intro s _ hSealed _
  have hThere : s.tun.isNone = false := by simpa using hSealed.1
  refine ⟨hSealed, ?_⟩
  simp only [Act.exec, hThere]
  exact hNo

lemma keeps_onConnected : Keeps onConnected := by
  apply keeps_ask rfl
  intro stale
  apply keeps_ite keeps_done
  refine keeps_call (keeps_get ?_)
  intro activated
  apply keeps_get
  intro routing
  apply keeps_ite keeps_report
  apply keeps_tunMissing
  exact keeps_set (keeps_set (keeps_set keeps_report))

lemma keeps_onCoreReady : Keeps onCoreReady := by
  apply keeps_ask rfl
  intro native
  exact keeps_ite keeps_report keeps_done

lemma keeps_program {entry : Entry} (hLoss : entry.reportsLoss = false) : Keeps entry.program := by
  cases entry with
  | watchdog => exact keeps_watchdogTick
  | reconnect => exact keeps_reconnect
  | connectivity => exact keeps_onAvailable
  | psiphonConnected => exact keeps_onConnected
  | psiphonExiting | outerLegEnded | failed => cases hLoss
  | coreReady => exact keeps_onCoreReady
  | disconnect | switchOff => exact keeps_release fun _ => rfl

-- Methods That Seal

@[simp] lemma behind_done : Behind .done := trivial

@[simp] lemma behind_act {next : Nat → Program} :
  Behind (.act act next) ↔ (act = .block true → ∀ v, Keeps (next v)) ∧ ∀ v, Behind (next v) :=
  Iff.rfl

@[simp] lemma behind_ask :
  Behind (ask act next) ↔ (act = .block true → ∀ b, Keeps (next b)) ∧ ∀ b, Behind (next b) := by
  have hAll (P : Bool → Prop) : (∀ v : Nat, P (v == 1)) ↔ ∀ b, P b := by
    constructor
    · intro hNat b
      cases b
      · exact hNat 0
      · exact hNat 1
    · intro hBool v
      exact hBool _
  rw [ask, behind_act, hAll fun b => Behind (next b), hAll fun b => Keeps (next b)]

@[simp] lemma behind_perform {next : Program} :
  Behind (perform act next) ↔ (act = .block true → Keeps next) ∧ Behind next := by simp [perform]

@[simp] lemma behind_get : Behind (get flag next) ↔ ∀ b, Behind (next b) := by simp [get]

@[simp] lemma behind_set {next : Program} : Behind (set flag value next) ↔ Behind next := by
  simp [set]

@[simp] lemma behind_ite : Behind (if b then yes else no) ↔
  (b → Behind yes) ∧ (b = false → Behind no) := by
  cases b <;> simp

@[simp] lemma behind_call : Behind (.call next) ↔ ∀ ok, Behind (next ok) := Iff.rfl

@[simp] lemma behind_wait {next : Program} : Behind (.wait next) ↔ Behind next := Iff.rfl

@[simp] lemma behind_fork {next : Program} :
  Behind (.fork thread job next) ↔ Behind job ∧ Behind next := Iff.rfl

@[simp] lemma behind_willAutoReconnect :
  Behind (willAutoReconnect next) ↔ ∀ b, Behind (next b) := by
  simp [willAutoReconnect]
  tauto

@[simp] lemma behind_scheduleAutoReconnect : Behind scheduleAutoReconnect := by
  simp [scheduleAutoReconnect]

@[simp] lemma behind_stopTunnel {teardownService : Bool} {next : Program} :
  Behind (stopTunnel teardownService next) ↔ Behind next := by
  cases teardownService <;> simp [stopTunnel, endSession]

@[simp] lemma behind_scheduleIfWanted :
  Behind (scheduleIfWanted otherwise) ↔ Behind otherwise := by simp [scheduleIfWanted]

@[simp] lemma behind_sealWithKillSwitch {armed : Bool} :
  Behind (sealWithKillSwitch armed next) ↔ (armed →
  Keeps (next true) ∧ Behind (next true)) ∧ (armed = false → Behind (next false)) := by
  cases armed <;>
    simp [sealWithKillSwitch, rebuildKillSwitchVpn]

lemma behind_afterFailure (armed keep : Bool) : Behind (afterFailure armed keep) := by
  simp [afterFailure, rebuildKillSwitchVpn, keeps_scheduleIfWanted keeps_done]

@[simp] lemma behind_failAndStop (sealOnDrop : Bool) : Behind (failAndStop sealOnDrop) := by
  cases sealOnDrop <;>
    simp [failAndStop, armedOnDrop, keepSeal, behind_afterFailure]

@[simp] lemma behind_onTunnelLost : Behind onTunnelLost := by
  simp [onTunnelLost, keeps_done, keeps_scheduleAutoReconnect]

section

variable (generation : Nat)

lemma behind_nativeFinally : Behind (nativeFinally generation) := by
  simp [nativeFinally, nativeUnsealed, keeps_done]

lemma behind_nativeCore : Behind (nativeCore generation) := by
  simp [nativeCore, behind_nativeFinally]

@[simp] lemma behind_startTransport : Behind (startTransport generation) := by
  simp [startTransport, startChainTunnel, startShardTunnel, startTorTunnel, chainJob,
    routedJob, psiphonJob, startPsiphonTunnel, nativeJob, behind_nativeCore, behind_nativeFinally]

end

lemma behind_startTunnel : Behind startTunnel := by simp [startTunnel]

lemma behind_program (entry : Entry) : Behind entry.program := by
  cases entry with
  | watchdog => simp [watchdogTick]
  | reconnect => simp [reconnect, behind_startTunnel]
  | connectivity => simp [onAvailable]
  | psiphonConnected => simp [onConnected]
  | psiphonExiting => simp [onExiting]
  | coreReady => simp [onCoreReady]
  | outerLegEnded => simp [onOuterLegEnded]
  | failed => exact behind_failAndStop false
  | disconnect => simp [disconnect]
  | switchOff => simp

-- Every Interleaving

abbrev Promised (s : State) : Prop := s.Promised Act.exec Service.Owed Service.Sealed Act.Seals

lemma not_owed_of_not_seals (act : Act)
  (s : Service) (hSeals : ¬ act.Seals) (hOwed : ¬ s.Owed) : ¬ (act.exec s).2.Owed := by
  unfold Service.Owed at hOwed ⊢
  cases act with
  | block drop =>
    cases drop with
    | false => simpa [Act.exec] using hOwed
    | true => exact absurd rfl hSeals
  | _ => first | exact hOwed | exact Bool.false_ne_true

lemma sealed_of_makes {ok : Bool} (hMakes : s.Makes Act.Seals thread) (hAlive : s.shared.alive)
  (hRun : s.run Act.exec thread ok = some s') : s'.shared.Sealed := by
  unfold Threads.Makes at hMakes
  unfold Threads.run at hRun
  split at hMakes
  next act next rest hQueue =>
    rw [hQueue] at hRun
    cases hRun
    have hAct : act = .block true := hMakes
    rw [hAct]
    exact ⟨rfl, hAlive⟩
  · cases hMakes

lemma promised_running (transport : Transport) (autoReconnect : Bool) :
  Promised (running transport autoReconnect) where
  behind := by
    intro thread job hMem
    unfold running at hMem
    simp only at hMem
    split at hMem
    · rw [mem_singleton.mp hMem]
      exact behind_nativeCore 1
    · cases hMem
  good := nofun
  keeps := nofun

lemma promised_arrive (entry : Entry) (hPromised : Promised s) :
  Promised { s with shared := entry.arrive s.shared } := by
  have hSame : (entry.arrive s.shared).owed = s.shared.owed ∧
    ((entry.arrive s.shared).Sealed ↔ s.shared.Sealed) := by
    cases entry <;> exact ⟨rfl, Iff.rfl⟩
  have hOwed : (entry.arrive s.shared).Owed → s.shared.Owed := by
    rw [Service.Owed, hSame.1]
    exact id
  exact
    { behind := hPromised.behind, good := fun h => hSame.2.mpr (hPromised.good (hOwed h)),
      keeps := fun h => hPromised.keeps (hOwed h) }

lemma promised_step {m : Move} (hPromised : Promised s)
  (hCareful : Careful s m) (hStep : step s m = some s') : Promised s' := by
  cases m with
  | run =>
    apply Threads.promised_run not_owed_of_not_seals hPromised hCareful.1 ?_ hStep
    intro hOwed hMakes
    rcases hCareful.2 hOwed hMakes with ⟨hAlive, hAlone⟩
    exact ⟨hAlone, fun s' hRun => sealed_of_makes hMakes hAlive hRun⟩
  | enter entry =>
    simp only [step] at hStep
    split at hStep
    · cases hStep
      apply Threads.promised_enqueue (promised_arrive entry hPromised) (behind_program entry)
      intro hOwed
      have hBefore : s.shared.Owed := by cases entry <;> exact hOwed
      exact keeps_program (hCareful.1 hBefore)
    · cases hStep

/-
  In every run, however the threads interleave: if the seal goes up when nothing else is left to
  run, and no attempt fails behind it, then no state has a window.
-/
theorem held_of_reaches
    (transport : Transport)
    (autoReconnect : Bool)
    {s : State}
    (hRun : Reaches step Careful (running transport autoReconnect) s) :
    Held s := by
  have hPromised : Promised s :=
    Reaches.invariant (I := Promised) (promised_running transport autoReconnect) promised_step hRun
  exact hPromised.good

/- Over SHARD the watchdog seals, and the retry establishes its TUN behind the seal. -/
theorem held_behind_retry : (∃ s : State, Reaches step Careful (running .shard true) s ∧
  s.shared.Owed ∧ s.shared.tun = some .session ∧ Held s) ∧ ∃ s :
  State, Reaches step Careful (running .native true) s ∧ s.shared.Owed ∧ s.Idle ∧ Held s := by
  constructor
  · rcases exists_reaches step Careful (running .shard true) (fun s =>
          s.shared.Owed ∧ s.shared.tun = some .session)
        (.enter .watchdog :: replicate 25 (.run .scheduler false) ++ .enter .reconnect ::
          replicate 13 (.run .scheduler true) ++
          replicate 2 (.run .worker true))
        (by decide +kernel) (by decide +kernel) with
      ⟨s, hRun, hEnd⟩
    have hEnd := of_decide_eq_true hEnd
    exact ⟨s, hRun, hEnd.1, hEnd.2, held_of_reaches .shard true hRun⟩
  · rcases exists_reaches step Careful (running .native true) (fun s => s.shared.Owed ∧ s.Idle)
      (replicate 13 (.run .worker true))
      (by decide +kernel) (by decide +kernel) with
      ⟨s, hRun, hEnd⟩
    have hEnd := of_decide_eq_true hEnd
    exact ⟨s, hRun, hEnd.1, hEnd.2, held_of_reaches .native true hRun⟩

-- Where It Opens

def Opens (transport : Transport) (autoReconnect : Bool) : Prop :=
  ∃ s : State, Reaches step Always (running transport autoReconnect) s ∧ s.Idle ∧ ¬ Held s

lemma opens_of_events {transport : Transport} {autoReconnect : Bool}
  (events : List Move) (hEnd : (exec step (running transport autoReconnect) events).any (fun s =>
  decide (s.Idle ∧ ¬ Held s))) : Opens transport autoReconnect := by
  rcases exists_reaches
    step Always (running transport autoReconnect) (fun s => decide (s.Idle ∧ ¬ Held s))
    events (taken_always step _ events) hEnd with ⟨s, hRun, hOpen⟩
  exact ⟨s, hRun, of_decide_eq_true hOpen⟩

/-
  The watchdog seals a native session, and then the worker comes back from the core and closes the
  blocking TUN.
-/
theorem seal_closed_by_worker : Opens .native true ∧ Opens .shard false ∧ Opens .psiphon true := by
  refine ⟨?_, ?_, ?_⟩
  · apply opens_of_events (.enter .watchdog :: replicate 24 (.run .scheduler false) ++
      replicate 9 (.run .worker true))
    decide +kernel
  · apply opens_of_events (.enter .watchdog :: replicate 23 (.run .scheduler false))
    decide +kernel
  · apply opens_of_events
      (.enter .watchdog :: replicate 25 (.run .scheduler false) ++ .enter .reconnect ::
      replicate 17 (.run .scheduler true) ++ replicate 5 (.run .worker false))
    decide +kernel

end Kourosh.Vpn
