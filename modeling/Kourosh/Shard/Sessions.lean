import Kourosh.Shard.Manager

/-
  A session and the stops that were aimed at earlier ones.

  The thread that cleans up behind a `stop` has captured its process, but it resets `running` and
  `activeNode` whatever session they belong to by then.

  Correctness is proven by:
    * `undamaged_of_unhurried`
-/

-- Sessions

namespace Kourosh.Shard

open List Pool

def Manager.Active (s : Manager) : Prop := s.committing = true ∨ s.session ≠ none

def Undamaged (s : Manager) : Prop := ∀ session, s.session = some session →
  s.activeNode = some session.node ∧ (s.isAlive session.process = true → s.isRunning = true)

def Act.marks : Act → Bool
| .setRunning _ true => true
| _ => false

def Marks (s : State) (thread : Nat) : Bool :=
  match s.threads[thread]? with
  | some (_, .act act _) => act.marks
  | _ => false

/-
  When a session is marked as running, all stops are over and cleaned up; and no stop begins
  before its node is stored.
-/
def Unhurried (s : State) : Move → Prop
| .run thread => Marks s thread = true → s.Alone thread
| .stop => s.shared.committing = false
| _ => True

instance Unhurried.decidable (s : State) : ∀ move, Decidable (Unhurried s move)
| .run thread => inferInstanceAs (Decidable (Marks s thread = true → s.Alone thread))
| .stop => inferInstanceAs (Decidable (s.shared.committing = false))
| .start _ => inferInstanceAs (Decidable True)
| .rotate _ => inferInstanceAs (Decidable True)
| .exit _ => inferInstanceAs (Decidable True)

-- A Session That Is Up

/- The engine is the one that `isRunning` asks. -/
def Serves (engine : Engine) (s : Manager) : Prop := engine = .anytls ↔ s.liveEngine = some .anytls

variable {engine : Engine} {a b c s s' : Manager} {role : Role} {xray : Bool}
variable {act : Act} {next : Program} {i : Nat}

lemma isRunning_of_serves (hServes : Serves engine s) : s.isRunning = s.isUp engine := by
  unfold Manager.isRunning
  cases engine with
  | anytls => rw [hServes.mp rfl]
  | xray =>
    split
    next hLive => cases hServes.mpr hLive
    · rfl

def Intact (s : Manager) : Prop := ∀ session, s.session = some session →
  s.activeNode = some session.node ∧ (s.isAlive session.process = true →
    ∃ engine, Serves engine s ∧ (s.engines engine).running = true ∧
      (s.engines engine).process = some session.process)

lemma Intact.undamaged (hIntact : Intact s) : Undamaged s := by
  intro session hSession
  rcases hIntact session hSession with ⟨hNode, hUp⟩
  refine ⟨hNode, ?_⟩
  intro hAlive
  rcases hUp hAlive with ⟨engine, hServes, hRunning, hField⟩
  rw [isRunning_of_serves hServes, Manager.isUp, hRunning, hField]
  exact hAlive

lemma intact_of_session_none (hSession : s.session = none) : Intact s := by
  intro session hSome
  rw [hSession] at hSome
  cases hSome

lemma intact_of_inactive (hInactive : ¬ s.Active) : Intact s := by
  apply intact_of_session_none
  by_contra hSome
  exact hInactive (.inr hSome)

lemma intact_exit (hIntact : Intact s) (pid : Nat) : Intact (s.exit pid) := by
  intro session hSession
  rcases hIntact session hSession with ⟨hNode, hUp⟩
  refine ⟨hNode, ?_⟩
  intro hAlive
  rw [Manager.isAlive_exit, Bool.and_eq_true] at hAlive
  exact hUp hAlive.1

-- What The Threads Rely On

/- What stops and their cleanups do behind a `start`. -/
structure Interferes (s s' : Manager) : Prop where
  active : s'.Active → s.Active
  frozen : s.committing = true → s'.engines = s.engines ∧
    s'.liveEngine = s.liveEngine ∧ s'.session = s.session ∧ s'.committing = true
  live : s'.liveEngine = s.liveEngine ∨ s'.liveEngine = none
  count : s'.processes.length = s.processes.length
  grows : Grows s s'
  field : ∀ engine pid, (s.engines engine).process = some pid →
    s'.isAlive pid = true → (s'.engines engine).process = some pid
  wellFormed : s'.WellFormed

structure Proceeds (s s' : Manager) : Prop where
  active : s'.Active → s.Active
  grows : Grows s s'
  wellFormed : s'.WellFormed

lemma Interferes.proceeds (hInterferes : Interferes s s') : Proceeds s s' := { hInterferes with }

lemma Interferes.dies (hInterferes : Interferes s s') {pid : Nat}
  (hAlive : s'.isAlive pid) : s.isAlive pid :=
  hInterferes.grows.isAlive (hInterferes.count ▸ Manager.lt_of_isAlive hAlive) hAlive

lemma Interferes.refl (hWell : s.WellFormed) : Interferes s s where
  active := id
  frozen := fun hCommitting => ⟨rfl, rfl, rfl, hCommitting⟩
  live := .inl rfl
  count := rfl
  grows := .of_processes rfl
  field := fun _ _ hField _ => hField
  wellFormed := hWell

lemma Interferes.trans (hFirst : Interferes a b) (hThen : Interferes b c) : Interferes a c where
  active := hFirst.active ∘ hThen.active
  frozen := fun hCommitting => by
    rcases hFirst.frozen hCommitting with ⟨hEngines, hLive, hSession, hStill⟩
    rcases hThen.frozen hStill with ⟨hEngines', hLive', hSession', hStill'⟩
    exact ⟨hEngines'.trans hEngines, hLive'.trans hLive, hSession'.trans hSession, hStill'⟩
  live := by
    rcases hThen.live with hSame | hNone
    · rw [hSame]
      exact hFirst.live
    · exact .inr hNone
  count := hThen.count.trans hFirst.count
  grows := hFirst.grows.trans hThen.grows
  field := fun engine pid hField hAlive =>
    hThen.field engine pid (hFirst.field engine pid hField (hThen.dies hAlive)) hAlive
  wellFormed := hThen.wellFormed

lemma Proceeds.trans (hFirst : Proceeds a b) (hThen : Proceeds b c) : Proceeds a c where
  active := hFirst.active ∘ hThen.active
  grows := hFirst.grows.trans hThen.grows
  wellFormed := hThen.wellFormed

def Rely : Role → Manager → Manager → Prop
| .starter => Interferes
| _ => Proceeds

/- `start` keeps its session, and only marking it is more than the others rely on. -/
def Pre : Role → Act → Manager → Prop
| .starter, act, s =>
  (Intact s → Intact (act.exec s).2) ∧ (act.marks = true ∨ Proceeds s (act.exec s).2)
| _, act, s => ¬ s.Active ∧ Interferes s (act.exec s).2

def Forks (_ other : Role) : Prop := other = .cleaner

lemma rely_refl (hWell : s.WellFormed) (role : Role) : Rely role s s := by
  cases role with
  | starter => exact .refl hWell
  | stopper | cleaner => exact (Interferes.refl hWell).proceeds

lemma rely_trans (hFirst : Rely role a b) (hThen : Rely role b c) : Rely role a c := by
  cases role with
  | starter => exact Interferes.trans hFirst hThen
  | stopper | cleaner => exact Proceeds.trans hFirst hThen

lemma Interferes.rely (hInterferes : Interferes s s') (role : Role) : Rely role s s' := by
  cases role with
  | starter => exact hInterferes
  | stopper | cleaner => exact hInterferes.proceeds

-- Away From A Session

abbrev Holds (role : Role) (A : Manager → Prop) (program : Program) : Prop :=
  program.Holds Act.exec Pre Rely Forks role A

/- No session is up. -/
structure Calm (xray : Bool) (s : Manager) : Prop where
  inactive : ¬ s.Active
  wellFormed : s.WellFormed
  live : xray = true → s.liveEngine ≠ some .anytls

lemma Calm.weaken (hCalm : Calm xray s) : Calm false s := ⟨hCalm.inactive, hCalm.wellFormed, nofun⟩

lemma stable_calm (xray : Bool) : Job.Stable Rely .starter (Calm xray) := by
  intro s s' hCalm hRely
  refine ⟨hCalm.inactive ∘ hRely.active, hRely.wellFormed, ?_⟩
  intro hXray
  rcases hRely.live with hSame | hNone
  · rw [hSame]
    exact hCalm.live hXray
  · rw [hNone]
    exact nofun

lemma stable_calm_false (role : Role) : Job.Stable Rely role (Calm false) := by
  intro s s' hCalm hRely
  cases role with
  | starter => exact stable_calm false s s' hCalm hRely
  | stopper | cleaner => exact ⟨hCalm.inactive ∘ hRely.active, hRely.wellFormed, nofun⟩

def Act.isPlain : Act → Bool
| .setRunning _ true => false
| .setActive (some _) => false
| .setLive (some .anytls) => false
| _ => true

section

variable (hPlain : act.isPlain)

include hPlain

lemma active_exec_of_isPlain (s : Manager) : (act.exec s).2.Active ↔ s.Active := by
  cases act with
  | setRunning _ value =>
    cases value with
    | true => cases hPlain
    | false => simp [Act.exec, Manager.Active, Manager.modify]
  | setActive node =>
    cases node with
    | some => cases hPlain
    | none => rfl
  | reap process => cases process <;> rfl
  | _ => rfl

lemma calm_exec (hCalm : Calm xray s) : Calm xray (act.exec s).2 := by
  refine ⟨?_, wellFormed_exec hCalm.wellFormed act, ?_⟩
  · rw [active_exec_of_isPlain hPlain]
    exact hCalm.inactive
  · intro hXray
    have hLive := hCalm.live hXray
    cases act with
    | setLive engine =>
      cases engine with
      | none => exact nofun
      | some engine =>
        cases engine with
        | xray => exact nofun
        | anytls => cases hPlain
    | reap process => cases process <;> exact hLive
    | setActive node => cases node <;> exact hLive
    | _ => exact hLive

lemma pre_starter_of_isPlain (hCalm : Calm xray s) : Pre .starter act s := by
  have hAfter := calm_exec hPlain hCalm
  refine ⟨fun _ => intact_of_inactive hAfter.inactive,
    .inr ⟨?_, grows_exec act s, hAfter.wellFormed⟩⟩
  exact fun hActive => absurd hActive hAfter.inactive

lemma holds_plain {next : Nat → Program} (hNext : ∀ v, Holds .starter (Calm xray) (next v)) :
  Holds .starter (Calm xray) (.act act next) :=
  Job.holds_act (stable_calm xray) (fun _ hCalm =>
    ⟨pre_starter_of_isPlain hPlain hCalm, calm_exec hPlain hCalm⟩)
    hNext

lemma holds_perform
  (hNext : Holds .starter (Calm xray) next) : Holds .starter (Calm xray) (perform act next) :=
  holds_plain hPlain fun _ => hNext

lemma holds_ask {next : Bool → Program} (hNext : ∀ yes, Holds .starter (Calm xray) (next yes)) :
  Holds .starter (Calm xray) (ask act next) :=
  holds_plain hPlain fun _ => hNext _

end

lemma holds_finish (xray ok : Bool) :
  Holds .starter (Calm xray) (finish ok) := holds_perform rfl Job.holds_done

lemma holds_cancel (xray : Bool) : Holds .starter (Calm xray) cancel :=
  holds_perform rfl (holds_finish xray false)

-- Stops

def Act.isQuiet : Act → Bool
| .latch _ _ => true
| .setLive none => true
| .launched => true
| .capture _ => true
| .reap _ => true
| .setRunning _ false => true
| .setActive none => true
| .cleaned _ => true
| _ => false

section

variable (hQuiet : act.isQuiet)

include hQuiet

lemma Act.isPlain_of_isQuiet : act.isPlain := by
  cases act with
  | setRunning _ value =>
    cases value with
    | true => cases hQuiet
    | false => rfl
  | setActive node =>
    cases node with
    | some => cases hQuiet
    | none => rfl
  | setLive engine =>
    cases engine with
    | some => cases hQuiet
    | none => rfl
  | _ => rfl

lemma process_exec_of_isQuiet (s : Manager)
  (engine : Engine) : ((act.exec s).2.engines engine).process = (s.engines engine).process := by
  cases act with
  | latch other | setRunning other => cases engine <;> cases other <;> rfl
  | reap process => cases process <;> rfl
  | setActive node => cases node <;> rfl
  | setLive | launched | capture | cleaned => rfl
  | _ => cases hQuiet

lemma count_exec_of_isQuiet (s : Manager) :
  (act.exec s).2.processes.length = s.processes.length := by
  cases act with
  | reap process =>
    cases process with
    | none => rfl
    | some => simp [Act.exec, Manager.exit]
  | setActive node => cases node <;> rfl
  | launch => cases hQuiet
  | _ => rfl

lemma live_exec_of_isQuiet (s : Manager) :
  (act.exec s).2.liveEngine = s.liveEngine ∨ (act.exec s).2.liveEngine = none := by
  cases act with
  | setLive engine =>
    cases engine with
    | some => cases hQuiet
    | none => exact .inr rfl
  | reap process => cases process <;> exact .inl rfl
  | setActive node => cases node <;> exact .inl rfl
  | _ => exact .inl rfl

lemma interferes_of_isQuiet
  (hInactive : ¬ s.Active) (hWell : s.WellFormed) : Interferes s (act.exec s).2 where
  active := (active_exec_of_isPlain (Act.isPlain_of_isQuiet hQuiet) s).mp
  frozen := fun hCommitting => absurd (.inl hCommitting) hInactive
  live := live_exec_of_isQuiet hQuiet s
  count := count_exec_of_isQuiet hQuiet s
  grows := grows_exec act s
  field := fun engine pid hField _ => by
    rw [process_exec_of_isQuiet hQuiet]
    exact hField
  wellFormed := wellFormed_exec hWell act

lemma pre_of_isQuiet (hCalm : Calm xray s) (role : Role) : Pre role act s := by
  have hInterferes := interferes_of_isQuiet hQuiet hCalm.inactive hCalm.wellFormed
  cases role with
  | starter => exact pre_starter_of_isPlain (Act.isPlain_of_isQuiet hQuiet) hCalm
  | stopper | cleaner => exact ⟨hCalm.inactive, hInterferes⟩

end

def Knows (role : Role) (xray : Bool) : Prop := role = .starter ∨ xray = false

lemma stable_calm_of_knows (hKnows : Knows role xray) : Job.Stable Rely role (Calm xray) := by
  rcases hKnows with rfl | rfl
  · exact stable_calm xray
  · exact stable_calm_false role

lemma holds_quiet (hQuiet : act.isQuiet) (hKnows : Knows role xray) {next : Nat → Program}
  (hNext : ∀ v, Holds role (Calm xray) (next v)) : Holds role (Calm xray) (.act act next) :=
  Job.holds_act (stable_calm_of_knows hKnows) (fun _ hCalm =>
    ⟨pre_of_isQuiet hQuiet hCalm role, calm_exec (Act.isPlain_of_isQuiet hQuiet) hCalm⟩)
    hNext

def Launched (process : Option Nat) (s : Manager) : Prop :=
  ∀ pid, process = some pid → pid < s.processes.length

lemma length_le_of_rely (hRely : Rely role s s') : s.processes.length ≤ s'.processes.length := by
  cases role with
  | starter => exact hRely.count.ge
  | stopper | cleaner => exact hRely.grows.length

lemma stable_launched (hKnows : Knows role xray)
  (process : Option Nat) : Job.Stable Rely role fun s => Calm xray s ∧ Launched process s := by
  rintro s s' ⟨hCalm, hLaunched⟩ hRely
  refine ⟨stable_calm_of_knows hKnows s s' hCalm hRely, ?_⟩
  intro pid hSome
  exact (hLaunched pid hSome).trans_le (length_le_of_rely hRely)

lemma holds_captured (hKnows : Knows role xray) {next : Option Nat → Program}
  (hNext : ∀ process, Holds role (fun s => Calm xray s ∧ Launched process s) (next process)) :
  Holds role (Calm xray) (captured engine next) := by
  refine Job.holds_act (B := fun v s => Calm xray s ∧ Launched (decode v) s)
    (stable_calm_of_knows hKnows) ?_ fun v => hNext (decode v)
  intro s hCalm
  refine ⟨pre_of_isQuiet rfl hCalm role, calm_exec rfl hCalm, ?_⟩
  rw [decode_capture]
  exact hCalm.wellFormed engine

def Dead (process : Option Nat) (s : Manager) : Prop :=
  ∀ pid, process = some pid → pid < s.processes.length ∧ s.isAlive pid = false

lemma interferes_forgetIf
  (engine : Engine) {process : Option Nat} (hInactive : ¬ s.Active) (hWell : s.WellFormed)
  (hDead : Dead process s) : Interferes s ((Act.forgetIf engine process).exec s).2 where
  active := id
  frozen := fun hCommitting => absurd (.inl hCommitting) hInactive
  live := .inl rfl
  count := rfl
  grows := .of_processes rfl
  field := fun other pid hField hAlive => by
    simp only [Act.exec, Manager.engines_modify]
    split
    next hSame =>
      rw [hSame] at hField
      split
      next hCaptured =>
        rw [hField] at hCaptured
        have hGone := (hDead pid hCaptured.symm).2
        change s.isAlive pid at hAlive
        rw [hGone] at hAlive
        cases hAlive
      · exact hField
    · exact hField
  wellFormed := wellFormed_exec hWell _

lemma holds_cleanup
  (engine : Engine) (process : Option Nat) (hNext : Holds .cleaner (Calm false) next) :
  Holds .cleaner (fun s => Calm false s ∧ Launched process s) (cleanup engine process next) := by
  have hLast : Holds .cleaner (Calm false) (perform (.setRunning engine false) next) :=
    holds_quiet rfl (.inr rfl) fun _ => hNext
  have hForget : Holds .cleaner (fun s => Calm false s ∧ Dead process s)
    (perform (.forgetIf engine process) <| perform (.setRunning engine false) next) := by
    refine Job.holds_act (B := fun _ => Calm false) ?_ ?_ ?_
    · rintro s s' ⟨hCalm, hDead⟩ hRely
      refine ⟨stable_calm_false _ s s' hCalm hRely, ?_⟩
      intro pid hSome
      rcases hDead pid hSome with ⟨hOld, hGone⟩
      exact ⟨hOld.trans_le hRely.grows.length, hRely.grows.dead hOld hGone⟩
    · rintro s ⟨hCalm, hDead⟩
      exact ⟨⟨hCalm.inactive, interferes_forgetIf engine hCalm.inactive hCalm.wellFormed hDead⟩,
        calm_exec rfl hCalm⟩
    · exact fun _ => hLast
  refine Job.holds_act (B := fun _ s => Calm false s ∧ Dead process s)
    (stable_launched (.inr rfl) process) ?_ fun _ => hForget
  rintro s ⟨hCalm, hLaunched⟩
  refine ⟨pre_of_isQuiet rfl hCalm .cleaner, calm_exec rfl hCalm, ?_⟩
  intro pid hSome
  rw [hSome]
  constructor
  · exact (hLaunched pid hSome).trans_le (grows_exec (.reap (some pid)) s).length
  · rw [Act.exec, Manager.isAlive_exit]
    simp

section

variable (hKnows : Knows role xray)

include hKnows

lemma holds_fork_cleanup (engine : Engine)
  (process : Option Nat) {last : Program} (hLast : Holds .cleaner (Calm false) last)
  (hNext : Holds role (Calm xray) next) : Holds role (fun s => Calm xray s ∧
  Launched process s) (.fork .cleaner (cleanup engine process last) next) := by
  have hForks : Forks role .cleaner := rfl
  apply Job.holds_fork hForks (stable_launched hKnows process)
  · exact (holds_cleanup engine process hLast).mono fun _ hBoth => ⟨hBoth.1.weaken, hBoth.2⟩
  · exact hNext.mono fun _ hBoth => hBoth.1

lemma holds_stopSidecar
  (hNext : Holds role (Calm xray) next) : Holds role (Calm xray) (stopSidecar next) := by
  apply holds_quiet rfl hKnows
  intro _
  apply holds_captured hKnows
  intro process
  exact holds_fork_cleanup hKnows .anytls process Job.holds_done hNext

lemma holds_stop (hNext : Holds role (Calm xray) next) : Holds role (Calm xray) (stop next) := by
  have hLast : ∀ count, Holds .cleaner
    (Calm false) (perform (.setActive none) <| perform (.cleaned count) .done) := by
    intro count
    exact holds_quiet rfl (.inr rfl) fun _ => holds_quiet rfl (.inr rfl) fun _ => Job.holds_done
  apply holds_quiet rfl hKnows
  intro _
  apply holds_stopSidecar hKnows
  apply holds_quiet rfl hKnows
  intro _
  apply holds_quiet rfl hKnows
  intro count
  apply holds_captured hKnows
  intro process
  exact holds_fork_cleanup hKnows .xray process (hLast count) hNext

end

-- The Start

lemma holds_killProcess (hNext : Holds .starter (Calm false) next) :
  Holds .starter (Calm false) (killProcess next) := by
  apply holds_perform rfl
  apply holds_perform rfl
  apply holds_captured (.inl rfl)
  intro process
  refine Job.Holds.mono ?_ fun _ hBoth => hBoth.1
  exact holds_perform rfl (holds_perform rfl hNext)

lemma holds_killProbe (hNext : Holds .starter (Calm false) next) :
  Holds .starter (Calm false) (killProbe next) := by
  apply holds_captured (.inl rfl)
  intro process
  refine Job.Holds.mono ?_ fun _ hBoth => hBoth.1
  exact holds_perform rfl (holds_perform rfl hNext)

lemma holds_launchProbe (engine : Engine) (basePort : Nat)
  (nodes : List Node) (starts : Bool) (hNext : Holds .starter (Calm false) next) :
  Holds .starter (Calm false) (launchProbe engine basePort nodes starts next) := by
  unfold launchProbe launch
  split
  · exact hNext
  · split
    all_goals exact holds_perform rfl hNext

lemma holds_raceSlice (call : Call) (slice : Nat) (candidates : List Node)
  {next : Option Node → Program} (hNext : ∀ winner, Holds .starter (Calm false) (next winner)) :
  Holds .starter (Calm false) (raceSlice call slice candidates next) := by
  unfold raceSlice
  apply holds_launchProbe
  apply holds_launchProbe
  split
  · exact holds_perform rfl (hNext none)
  · apply holds_ask rfl
    intro latched
    split
    · exact holds_killProcess (holds_killProbe (hNext _))
    · exact holds_perform rfl (holds_killProcess (holds_killProbe (hNext none)))

lemma holds_raceSlices (call : Call)
  {next : Node → Program} (hNext : ∀ winner, Holds .starter (Calm false) (next winner))
  (slices : List Nat) : Holds .starter (Calm false) (raceSlices call next slices) := by
  induction slices with
  | nil => exact holds_finish false false
  | cons _ _ ih =>
    apply holds_ask rfl
    intro latched
    split
    · exact holds_cancel false
    · dsimp only
      split
      · exact holds_finish false false
      · apply holds_raceSlice
        intro winner
        cases winner with
        | none => exact ih
        | some winner => exact hNext winner

def Manager.last (s : Manager) : Nat := s.processes.length - 1

def Holding (engine : Engine) (s : Manager) : Prop :=
  s.isAlive s.last = true → (s.engines engine).process = some s.last

structure Held (engine : Engine) (s : Manager) : Prop where
  calm : Calm (decide (engine = .xray)) s
  holding : Holding engine s

lemma holding_of_interferes
  (hHolding : Holding engine s) (hRely : Interferes s s') : Holding engine s' := by
  have hLast : s'.last = s.last := by rw [Manager.last, Manager.last, hRely.count]
  intro hAlive
  rw [hLast] at hAlive ⊢
  exact hRely.field engine s.last (hHolding (hRely.dies hAlive)) hAlive

lemma stable_held (engine : Engine) : Job.Stable Rely .starter (Held engine) := by
  intro s s' hHeld hRely
  exact ⟨stable_calm _ s s' hHeld.calm hRely, holding_of_interferes hHeld.holding hRely⟩

lemma holding_launch (s : Manager) (engine : Engine) (config : Config) :
  Holding engine (s.launch engine config) := by
  intro _
  have hLast : (s.launch engine config).last = s.processes.length := by
    simp [Manager.last, Manager.launch]
  rw [hLast]
  cases engine <;> rfl

lemma holds_awaitListener (engine : Engine) (port : Nat) (listens : Bool)
  {next : Bool → Program} (hNext : ∀ up, Holds .starter (Held engine) (next up)) :
  Holds .starter (Held engine) (awaitListener port listens next) := by
  refine Job.holds_act (B := fun _ => Held engine) (stable_held engine) ?_ fun _ => hNext _
  intro s hHeld
  exact ⟨pre_starter_of_isPlain rfl hHeld.calm, hHeld⟩

lemma holds_attempt (engine : Engine) (starts : Bool) (config : Config) (port : Nat)
  (listens : Bool) {next : Bool → Program} {other : Program}
  (hNext : ∀ up, Holds .starter (Held engine) (next up))
  (hOther : Holds .starter (Calm (decide (engine = .xray))) other) :
  Holds .starter (Calm (decide (engine = .xray))) (launch engine starts config fun started =>
    if started then awaitListener port listens next else other) := by
  unfold launch
  split
  · refine Job.holds_act (B := fun _ => Held engine) (stable_calm _) ?_
      fun _ => holds_awaitListener engine port listens hNext
    intro s hCalm
    exact ⟨pre_starter_of_isPlain rfl hCalm, calm_exec rfl hCalm, holding_launch s engine config⟩
  · exact holds_perform rfl hOther

structure Marked (engine : Engine) (s : Manager) : Prop where
  committing : s.committing = true
  session : s.session = none
  wellFormed : s.WellFormed
  running : (s.engines engine).running = true
  holding : Holding engine s
  live : engine = .xray → s.liveEngine ≠ some .anytls

lemma stable_marked (engine : Engine) : Job.Stable Rely .starter (Marked engine) := by
  intro s s' hMarked hRely
  rcases hRely.frozen hMarked.committing with ⟨hEngines, hLive, hSession, hStill⟩
  exact
    { committing := hStill
      session := hSession.trans hMarked.session
      wellFormed := hRely.wellFormed
      running := by
        rw [hEngines]
        exact hMarked.running
      holding := holding_of_interferes hMarked.holding hRely
      live := by
        rw [hLive]
        exact hMarked.live }

lemma holds_mark (engine : Engine) (hNext : Holds .starter (Marked engine) next) :
  Holds .starter (Held engine) (perform (.setRunning engine true) next) := by
  refine Job.holds_act (B := fun _ => Marked engine) (stable_held engine) ?_ fun _ => hNext
  intro s hHeld
  have hSession : s.session = none := by
    by_contra hSome
    exact hHeld.calm.inactive (.inr hSome)
  refine ⟨⟨fun _ => intact_of_session_none hSession, .inl rfl⟩, ?_⟩
  exact
    { committing := by simp [Act.exec]
      session := hSession
      wellFormed := wellFormed_exec hHeld.calm.wellFormed _
      running := by simp [Act.exec]
      holding := by
        intro hAlive
        have hField := hHeld.holding hAlive
        cases engine <;> exact hField
      live := by
        rintro rfl
        exact hHeld.calm.live rfl }

lemma stable_wellFormed (role : Role) : Job.Stable Rely role Manager.WellFormed := by
  intro s s' _ hRely
  cases role with
  | starter | stopper | cleaner => exact hRely.wellFormed

lemma holds_finish_stored : Holds .starter Manager.WellFormed (finish true) := by
  refine Job.holds_act (B := fun _ _ => True)
    (stable_wellFormed .starter) ?_ fun _ => Job.holds_done
  intro s hWell
  exact ⟨⟨id, .inr ⟨id, grows_exec _ s, wellFormed_exec hWell _⟩⟩, trivial⟩

lemma intact_store (hMarked : Marked engine s) (hServes : Serves engine s)
  (winner : Node) : Intact ((Act.setActive (some winner)).exec s).2 := by
  intro session hSession
  cases hSession
  refine ⟨rfl, ?_⟩
  intro hAlive
  exact ⟨engine, hServes, hMarked.running, hMarked.holding hAlive⟩

lemma holds_store (engine : Engine) (winner : Node) : Holds .starter (fun s => Marked engine s ∧
  Serves engine s) (perform (.setActive (some winner)) (finish true)) := by
  refine Job.holds_act (B := fun _ => Manager.WellFormed) ?_ ?_ fun _ => holds_finish_stored
  · rintro s s' ⟨hMarked, hServes⟩ hRely
    refine ⟨stable_marked engine s s' hMarked hRely, ?_⟩
    rw [Serves, (hRely.frozen hMarked.committing).2.1]
    exact hServes
  · rintro s ⟨hMarked, hServes⟩
    have hWell := wellFormed_exec hMarked.wellFormed (.setActive (some winner))
    exact ⟨⟨fun _ => intact_store hMarked hServes winner,
      .inr ⟨fun _ => .inl hMarked.committing, grows_exec _ s, hWell⟩⟩, hWell⟩

lemma holds_commit (winner : Node) : Holds .starter (Held .xray) (commit winner) :=
  holds_mark .xray <| (holds_store .xray winner).mono fun _ hMarked =>
    ⟨hMarked, nofun, fun hAnytls => absurd hAnytls (hMarked.live rfl)⟩

section

variable (call : Call)

lemma holds_launchLive (node : Node) {next : Bool → Program}
  (hUp : Holds .starter (Marked .anytls) (next true))
  (hDown : Holds .starter (Calm false) (next false)) :
  Holds .starter (Calm false) (launchLive call node next) := by
  have hListen :
    Holds .starter (Marked .anytls) (perform (.listenOn .anytls call.port) (next true)) := by
    refine Job.holds_act (B := fun _ => Marked .anytls) (stable_marked .anytls) ?_ fun _ => hUp
    intro s hMarked
    have hWell := wellFormed_exec hMarked.wellFormed (.listenOn .anytls call.port)
    exact ⟨⟨fun _ => intact_of_session_none hMarked.session, .inr ⟨id, grows_exec _ s, hWell⟩⟩,
      { hMarked with wellFormed := hWell, running := hMarked.running, holding := hMarked.holding }⟩
  apply holds_perform rfl
  apply holds_perform rfl
  apply holds_ask rfl
  intro stopped
  split
  · exact hDown
  · apply holds_attempt .anytls
    · intro up
      split
      · exact holds_mark .anytls hListen
      · exact Job.Holds.mono
          (holds_perform rfl (holds_stopSidecar (.inl rfl) hDown)) fun _ hHeld => hHeld.calm
    · exact hDown

section

variable (winner : Node)

lemma holds_sidecarTunnel : Holds .starter (Calm false) (sidecarTunnel call winner) := by
  apply holds_launchLive
  · refine Job.holds_act (B := fun _ s => Marked .anytls s ∧ Serves .anytls s)
      (stable_marked .anytls) ?_ fun _ => holds_store .anytls winner
    intro s hMarked
    have hWell := wellFormed_exec hMarked.wellFormed (.setLive (some .anytls))
    exact ⟨⟨fun _ => intact_of_session_none hMarked.session, .inr ⟨id, grows_exec _ s, hWell⟩⟩,
      { hMarked with wellFormed := hWell, holding := hMarked.holding, live := nofun },
      ⟨fun _ => rfl, fun _ => rfl⟩⟩
  · exact holds_perform rfl (holds_finish false false)

lemma holds_nodeOnly : Holds .starter (Calm true) (nodeOnly call winner) := by
  apply holds_ask rfl
  intro latched
  split
  · exact holds_cancel true
  · apply holds_attempt .xray
    · intro up
      split
      · exact holds_commit winner
      · exact Job.Holds.mono (holds_perform rfl (holds_stop (.inl rfl) (holds_finish true false)))
          fun _ hHeld => hHeld.calm
    · exact holds_finish true false

lemma holds_tryProfiles
  (hNext : Holds .starter (Calm true) next) (position : Nat) (profiles : List Profile) :
  Holds .starter (Calm true) (tryProfiles call winner next position profiles) := by
  induction profiles generalizing position with
  | nil => exact holds_perform rfl hNext
  | cons _ rest ih =>
    have hStop :
      Holds .starter (Held .xray) (stop <| tryProfiles call winner next (position + 1) rest) :=
      (holds_stop (.inl rfl) (ih _)).mono fun _ hHeld => hHeld.calm
    apply holds_ask rfl
    intro latched
    split
    · exact hNext
    · apply holds_perform rfl
      apply holds_attempt .xray
      · intro up
        split
        · exact hStop
        · split
          · exact holds_commit winner
          · split
            · refine Job.holds_act
                (B := fun _ => Held .xray) (stable_held .xray) ?_ fun _ => holds_commit winner
              intro s hHeld
              exact ⟨pre_starter_of_isPlain rfl hHeld.calm, calm_exec rfl hHeld.calm, hHeld.holding⟩
            · exact hStop
      · exact ih _

lemma holds_xrayTunnel : Holds .starter (Calm false) (xrayTunnel call winner) := by
  have hTunnel :
    Holds .starter (Calm true) (startSmartSplit call winner (nodeOnly call winner)) := by
    unfold startSmartSplit
    split
    · exact holds_nodeOnly call winner
    · exact holds_tryProfiles call winner (holds_nodeOnly call winner) 0 call.candidates
  refine Job.holds_act (B := fun _ => Calm true) (stable_calm false) ?_ fun _ => hTunnel
  intro s hCalm
  have hAfter : Calm false ((Act.setLive (some .xray)).exec s).2 := calm_exec rfl hCalm
  exact ⟨pre_starter_of_isPlain rfl hCalm, hAfter.inactive, hAfter.wellFormed, nofun⟩

end

lemma holds_start : Holds .starter (Calm false) (start call) := by
  apply holds_perform rfl
  apply holds_perform rfl
  apply holds_perform rfl
  split
  · exact holds_perform rfl (holds_finish false false)
  · apply holds_raceSlices
    intro winner
    apply holds_ask rfl
    intro latched
    split
    · exact holds_cancel false
    · split
      · exact holds_sidecarTunnel call winner
      · exact holds_xrayTunnel call winner

lemma holds_rotate : Holds .starter (Calm false) (rotate call) :=
  holds_plain rfl fun _ => holds_start _

end

-- Runs

structure Kept (s : State) : Prop where
  sat : s.Sat Act.exec Pre Rely Forks
  single : s.Single .starter
  wellFormed : s.shared.WellFormed
  intact : Intact s.shared

lemma interferes_exit (hWell : s.WellFormed) (pid : Nat) : Interferes s (s.exit pid) where
  active := id
  frozen := fun hCommitting => ⟨rfl, rfl, rfl, hCommitting⟩
  live := .inl rfl
  count := by simp [Manager.exit]
  grows := grows_exit s pid
  field := fun _ _ hField _ => hField
  wellFormed := fun engine other hField =>
    (hWell engine other hField).trans_le (grows_exit s pid).length

lemma kept_exit {s : State} (hKept : Kept s) (pid : Nat) :
  Kept { s with shared := s.shared.exit pid } := by
  have hExit := interferes_exit hKept.wellFormed pid
  refine ⟨?_, hKept.single, hExit.wellFormed, intact_exit hKept.intact pid⟩
  exact sat_shared hKept.sat rely_trans fun _ _ _ => hExit.rely _

lemma rely_of_run
  {s : State} (hKept : Kept s) (hAlone : Marks s i → s.Alone i) {next : Nat → Program}
  (hThread : s.threads[i]? = some (role, .act act next)) (hPre : Pre role act s.shared)
  {j : Nat} {thread : Role × Program} (hOther : j ≠ i) (hGet : s.threads[j]? = some thread)
  (hLive : thread.2.isDone = false) : Rely thread.1 s.shared (act.exec s.shared).2 := by
  cases role with
  | stopper | cleaner => exact hPre.2.rely _
  | starter =>
    rcases hPre.2 with hMarks | hProceeds
    · -- nobody else is left then
      have hNext : Marks s i := by
        rw [Marks, hThread]
        exact hMarks
      have hDone := (hAlone hNext).isDone hOther hGet
      rw [hLive] at hDone
      cases hDone
    · cases hRole : thread.1 with
      | starter => exact absurd (hKept.single hGet hThread hRole rfl hLive rfl) hOther
      | stopper | cleaner => exact hProceeds

lemma intact_of_pre (hPre : Pre role act s) (hIntact : Intact s) : Intact (act.exec s).2 := by
  cases role with
  | starter => exact hPre.1 hIntact
  | stopper | cleaner => exact intact_of_inactive (hPre.1 ∘ hPre.2.active)

lemma kept_run {s s' : State} (hKept : Kept s)
  (hAlone : Marks s i → s.Alone i) (hRun : s.run Act.exec i true = some s') : Kept s' := by
  have hRefl := rely_refl hKept.wellFormed
  have hForks : ∀ other, ¬ Forks other .starter := nofun
  have hSat := sat_run hKept.sat hRefl rely_trans (fun hThread hPre _ _ hOther hGet hLive =>
        rely_of_run hKept hAlone hThread hPre hOther hGet hLive)
      hRun
  have hSingle := single_run hForks hKept.sat hKept.single hRun
  rcases shared_run hRun with hSame | ⟨role, act, next, hThread, hShared⟩
  · exact ⟨hSat, hSingle, hSame ▸ hKept.wellFormed, hSame ▸ hKept.intact⟩
  · have hPre := pre_of_sat hKept.sat hRefl hThread
    refine ⟨hSat, hSingle, ?_, ?_⟩
    · rw [hShared]
      exact wellFormed_exec hKept.wellFormed act
    · rw [hShared]
      exact intact_of_pre hPre hKept.intact

lemma calm_arrive (hWell : s.WellFormed) {starts : Bool}
  (hStarts : starts ∨ s.committing = false) : Calm false (s.arrive starts) := by
  refine ⟨?_, hWell, nofun⟩
  rintro (hCommitting | hSession)
  · rcases hStarts with hTrue | hFalse
    · simp [Manager.arrive, hTrue] at hCommitting
    · simp [Manager.arrive, hFalse] at hCommitting
  · exact hSession rfl

lemma kept_start {s s' : State} (hKept : Kept s) {program : Program}
  (hProgram : Holds .starter (Calm false) program)
  (hEnter : enter s program = some s') : Kept s' := by
  unfold enter at hEnter
  split at hEnter
  next hLock =>
    cases hEnter
    have hCalm : Calm false (s.shared.arrive true) := calm_arrive hKept.wellFormed (.inl rfl)
    refine ⟨sat_spawn ?_ (hProgram _ hCalm), ?_,
      hCalm.wellFormed, intact_of_inactive hCalm.inactive⟩
    · apply sat_shared hKept.sat rely_trans
      intro thread hMem hLive
      have hProceeds : Proceeds s.shared (s.shared.arrive true) :=
        ⟨fun hActive => absurd hActive hCalm.inactive, .of_processes rfl, hCalm.wellFormed⟩
      cases hRole : thread.1 with
      | starter =>
        rw [hLock thread hMem hRole] at hLive
        cases hLive
      | stopper | cleaner => exact hProceeds
    · exact single_spawn hKept.single program fun _ => hLock
  · cases hEnter

lemma kept_stop {s : State} (hKept : Kept s) (hStored : s.shared.committing = false) :
  Kept (spawn { s with shared := s.shared.arrive false } .stopper (stop .done)) := by
  have hCalm : Calm false (s.shared.arrive false) := calm_arrive hKept.wellFormed (.inr hStored)
  have hArrive : Interferes s.shared (s.shared.arrive false) :=
    { active := fun hActive => absurd hActive hCalm.inactive
      frozen := fun hCommitting => by
        rw [hStored] at hCommitting
        cases hCommitting
      live := .inl rfl
      count := rfl
      grows := .of_processes rfl
      field := fun _ _ hField _ => hField
      wellFormed := hCalm.wellFormed }
  have hStop : Holds .stopper (Calm false) (stop .done) := holds_stop (.inr rfl) Job.holds_done
  refine ⟨sat_spawn ?_ (hStop _ hCalm), ?_,
    hCalm.wellFormed, intact_of_inactive hCalm.inactive⟩
  · exact sat_shared hKept.sat rely_trans fun _ _ _ => hArrive.rely _
  · exact single_spawn hKept.single _ nofun

lemma kept_step {s s' : State} {move : Move} (hKept : Kept s)
  (hOk : Unhurried s move) (hStep : step s move = some s') : Kept s' := by
  cases move with
  | run => exact kept_run hKept hOk hStep
  | start call => exact kept_start hKept (holds_start call) hStep
  | rotate call => exact kept_start hKept (holds_rotate call) hStep
  | stop =>
    cases hStep
    exact kept_stop hKept hOk
  | exit pid =>
    cases hStep
    exact kept_exit hKept pid

lemma kept_launchState : Kept launchState where
  sat := nofun
  single := nofun
  wellFormed := by
    intro engine pid hField
    cases engine <;> cases hField
  intact := nofun

/-
  If every session is marked as running when all stops are over and cleaned up, then none is
  damaged by them.
-/
theorem undamaged_of_unhurried
    {s : State}
    (hRun : Run.Reaches step Unhurried launchState s) :
    Undamaged s.shared :=
  (hRun.invariant kept_launchState kept_step).intact.undamaged

/- A session, its stop with all cleanups, and another one. -/
theorem second_session_undamaged : ∃ s, Run.Reaches step Unhurried launchState s ∧
  s.shared.session.isSome = true ∧ s.shared.isRunning = true ∧ Undamaged s.shared := by
  let events : List Move :=
    .start plainCall :: replicate 22 (.run 0) ++ .stop :: replicate 8 (.run 1) ++
      replicate 3 (.run 2) ++
      replicate 5 (.run 3) ++
      .start plainCall :: replicate 22 (.run 4)
  have hTaken : Run.Taken step Unhurried launchState events := by decide +kernel
  rcases Run.exists_reaches step Unhurried launchState (fun s : State =>
        s.shared.session.isSome && s.shared.isRunning)
      events hTaken (by decide +kernel) with
    ⟨s, hRun, hEnd⟩
  rw [Bool.and_eq_true] at hEnd
  exact ⟨s, hRun, hEnd.1, hEnd.2, undamaged_of_unhurried hRun⟩

/-
  The cleanup behind a stop is late: the next session is up when it says that nothing is running.
-/
theorem late_cleanup_damages :
  ¬ ∀ s, Run.Reaches step Run.Always launchState s → Undamaged s.shared := by
  intro hAll
  let events : List Move :=
    .start plainCall :: replicate 22 (.run 0) ++ .stop :: replicate 8 (.run 1) ++
      [.exit 1, .start plainCall] ++
      replicate 22 (.run 4) ++
      replicate 5 (.run 3)
  rcases Run.exists_reaches step Run.Always launchState (fun s : State =>
        decide (s.shared.session = some ⟨sampleWinner, 3⟩ ∧
          s.shared.activeNode = none ∧ s.shared.isAlive 3 ∧ s.shared.isRunning = false))
      events (Run.taken_always step _ events)
      (by decide +kernel) with
    ⟨s, hRun, hEnd⟩
  have hEnd := of_decide_eq_true hEnd
  have hNode := (hAll s hRun _ hEnd.1).1
  rw [hEnd.2.1] at hNode
  cases hNode

end Kourosh.Shard
