import Kourosh.Shard.Manager

/-
  Who owns the processes that were launched.

  One field names the process of an engine, and the probes of a race, the attempts with Smart
  Split and the live tunnel are all stored there.

  Correctness is proven by:
    * `owned_of_orderly`
-/

-- Ownership

namespace Kourosh.Shard.Ownership

open Bool Manager Pool List Act

/-
  Whoever accepts on the port of the tunnel was launched with the configuration of the active
  node.
-/
def OwnsPort (s : Manager) : Prop :=
  ∀ process ∈ s.processes, process.alive = true →
    (s.engines .xray).listenPort ∈ process.config.ports → ∃ node split, s.activeNode = some node ∧
    process.config = .tunnel node (s.engines .xray).listenPort split

def Gone (engine : Engine) (count : Nat) (s : Manager) : Prop :=
  ∀ pid < count, ∀ process, s.processes[pid]? = some process →
    process.engine = engine → process.alive = false

/-
  A call that is about to return `true` owns its port, and what was launched before a stop is gone
  once the stop has cleaned up.
-/
def Owned (s : State) : Prop :=
  (∀ (thread : Nat) (next : Nat → Program), s.threads[thread]? = some (.starter,
    .act (.returns true) next) → OwnsPort s.shared) ∧ Gone .xray s.shared.cleaned s.shared

def OneAtATime (s : State) : Move → Prop
| .run _ => True
| .exit _ => True
| _ => s.Without .starter ∧ s.Without .stopper

/-
  A call of `start` or `rotate` finds no process alive, and no cleanup of an earlier stop at work.
-/
def Orderly (s : State) : Move → Prop
| .start _ | .rotate _ =>
  (∀ thread ∈ s.threads, thread.2.isDone = true) ∧
    ∀ process ∈ s.shared.processes, process.alive = false
| move => OneAtATime s move

-- Processes That Are Named

def Named (s : Manager) : Prop := ∀ pid process,
  s.processes[pid]? = some process → process.alive = true →
    (s.engines process.engine).process = some pid

structure Fit (s : Manager) : Prop where
  wellFormed : s.WellFormed
  named : Named s

variable {a b c s s' : Manager} {P : Engine → Config → Prop} {engine : Engine}
variable {count i : Nat} {role : Role} {port process : Option Nat} {act : Act}
variable {latched : Bool} {next : Program} {thread : Role × Program}

lemma Fit.of_grows (hFit : Fit s) (hWell : s'.WellFormed)
  (hGrows : Grows s s') (hCount : s'.processes.length = s.processes.length)
  (hField : ∀ (pid : Nat) (process : Process), s'.processes[pid]? = some process → process.alive =
  true → (s'.engines process.engine).process = (s.engines process.engine).process) : Fit s' := by
  refine ⟨hWell, ?_⟩
  intro pid process hGet hAlive
  have hOld : pid < s.processes.length := hCount ▸ (List.getElem?_eq_some_iff.mp hGet).1
  rcases hGrows.same pid hOld process hGet with ⟨before, hBefore, hEngine, _, hDies⟩
  rw [hField pid process hGet hAlive, hEngine]
  exact hFit.named pid before hBefore (hDies hAlive)

def Alive (P : Engine → Config → Prop) (s : Manager) : Prop :=
  ∀ process ∈ s.processes, process.alive = true → P process.engine process.config

lemma alive_of_grows (hAlive : Alive P s) (hGrows : Grows s s')
  (hCount : s'.processes.length = s.processes.length) : Alive P s' := by
  intro process hMem hLives
  rcases mem_iff_getElem?.mp hMem with ⟨pid, hGet⟩
  have hOld : pid < s.processes.length := hCount ▸ (List.getElem?_eq_some_iff.mp hGet).1
  rcases hGrows.same pid hOld process hGet with ⟨before, hBefore, hEngine, hConfig, hDies⟩
  rw [hEngine, hConfig]
  exact hAlive before (mem_of_getElem? hBefore) (hDies hLives)

lemma gone_of_grows (hGone : Gone engine count s)
  (hLaunched : count ≤ s.processes.length) (hGrows : Grows s s') : Gone engine count s' := by
  intro pid hShort process hGet hOwn
  rcases hGrows.same pid (hShort.trans_le hLaunched) process
    hGet with ⟨before, hBefore, hEngine, _, hDies⟩
  have hDead := hGone pid hShort before hBefore (hEngine ▸ hOwn)
  rw [eq_false_iff] at hDead ⊢
  exact hDead ∘ hDies

-- What The Threads Rely On

/- Others act behind a `start` only once it was stopped. -/
structure Yields (s s' : Manager) : Prop where
  frozen : s.undisturbed = true →
    s'.engines = s.engines ∧ s'.activeNode = s.activeNode ∧ s'.undisturbed = true
  disturbed : s.undisturbed = false → s'.undisturbed = false
  latch : (s.engines .xray).latch = true → (s'.engines .xray).latch = true
  count : s'.processes.length = s.processes.length
  grows : Grows s s'
  fit : Fit s'

structure Goes (s s' : Manager) : Prop where
  disturbed : s.undisturbed = false → s'.undisturbed = false
  grows : Grows s s'
  fit : Fit s'

lemma Yields.goes (hYields : Yields s s') : Goes s s' :=
  { hYields with }

lemma Yields.refl (hFit : Fit s) : Yields s s :=
  ⟨fun hCalm => ⟨rfl, rfl, hCalm⟩, id, id, rfl, .of_processes rfl, hFit⟩

lemma Yields.trans (hFirst : Yields a b) (hThen : Yields b c) : Yields a c where
  frozen := fun hCalm => by
    rcases hFirst.frozen hCalm with ⟨hEngines, hNode, hStill⟩
    rcases hThen.frozen hStill with ⟨hEngines', hNode', hStill'⟩
    exact ⟨hEngines'.trans hEngines, hNode'.trans hNode, hStill'⟩
  disturbed := hThen.disturbed ∘ hFirst.disturbed
  latch := hThen.latch ∘ hFirst.latch
  count := hThen.count.trans hFirst.count
  grows := hFirst.grows.trans hThen.grows
  fit := hThen.fit

lemma Goes.trans (hFirst : Goes a b) (hThen : Goes b c) : Goes a c :=
  ⟨hThen.disturbed ∘ hFirst.disturbed, hFirst.grows.trans hThen.grows, hThen.fit⟩

def Rely : Role → Manager → Manager → Prop
| .starter => Yields
| _ => Goes

/- `start` names what it launches, and owns its port when it succeeds. -/
def Pre : Role → Act → Manager → Prop
| .starter, act, s =>
  Fit (act.exec s).2 ∧ (act = .returns true → OwnsPort s) ∧ ∀ count, act ≠ .cleaned count
| _, act, s =>
  s.undisturbed = false ∧ Yields s (act.exec s).2 ∧ ∀ count, act = .cleaned count →
    count ≤ s.processes.length ∧ Gone .xray count s

def Forks (_ other : Role) : Prop := other = .cleaner

abbrev Holds (role : Role) (A : Manager → Prop) (program : Program) : Prop :=
  program.Holds Act.exec Pre Rely Forks role A

lemma Yields.rely (hYields : Yields s s') (role : Role) : Rely role s s' := by
  cases role with
  | starter => exact hYields
  | stopper | cleaner => exact hYields.goes

lemma rely_trans (hFirst : Rely role a b) (hThen : Rely role b c) : Rely role a c := by
  cases role with
  | starter => exact Yields.trans hFirst hThen
  | stopper | cleaner => exact Goes.trans hFirst hThen

attribute [local simp] exec exit

lemma disturbed_exec (act : Act) (hDisturbed : s.undisturbed = false) :
  (act.exec s).2.undisturbed = false := by
  cases act with
  | latch => simp [hDisturbed]
  | reap process => cases process <;> exact hDisturbed
  | setActive node => cases node <;> exact hDisturbed
  | _ => exact hDisturbed

-- A Call That Is Undisturbed

/- `start` is at work alone. -/
structure Own (port : Option Nat) (P : Engine → Config → Prop) (s : Manager) : Prop where
  undisturbed : s.undisturbed = true
  fit : Fit s
  port : ∀ number, port = some number → (s.engines .xray).listenPort = number
  alive : Alive P s

lemma stable_own (port : Option Nat) (P : Engine → Config → Prop) :
  Job.Stable Rely .starter (Own port P) := by
  intro s s' hOwn hRely
  rcases hRely.frozen hOwn.undisturbed with ⟨hEngines, _, hStill⟩
  exact
    { undisturbed := hStill, fit := hRely.fit, port := hEngines ▸ hOwn.port,
      alive := alive_of_grows hOwn.alive hRely.grows hRely.count }

lemma Own.mono {Q : Engine → Config → Prop} (hOwn : Own port P s)
  (hImp : ∀ engine config, P engine config → Q engine config) : Own port Q s :=
  { hOwn with alive := fun process hMem hLives => hImp _ _ (hOwn.alive process hMem hLives) }

def Act.sparesProcesses : Act → Bool
| .latch _ true => false
| .listenOn .xray _ => false
| .launch _ _ => false
| .reap _ => false
| .forget _ => false
| .forgetIf _ _ => false
| .cleaned _ => false
| .returns true => false
| _ => true

structure Spares (s s' : Manager) : Prop where
  processes : s'.processes = s.processes
  undisturbed : s'.undisturbed = s.undisturbed
  port : (s'.engines .xray).listenPort = (s.engines .xray).listenPort
  field : ∀ engine, (s'.engines engine).process = (s.engines engine).process

lemma spares_exec (hSpares : Act.sparesProcesses act) (s : Manager) : Spares s (act.exec s).2 := by
  cases act with
  | latch engine value =>
    cases value with
    | true => cases hSpares
    | false =>
      refine ⟨rfl, by simp, ?_, ?_⟩
      · cases engine <;> rfl
      · intro other
        cases engine <;> cases other <;> rfl
  | fail engine | setRunning engine =>
    refine ⟨rfl, rfl, ?_, ?_⟩
    · cases engine <;> rfl
    · intro other
      cases engine <;> cases other <;> rfl
  | adoptError =>
    refine ⟨rfl, rfl, rfl, ?_⟩
    intro other
    cases other <;> rfl
  | listenOn engine =>
    cases engine with
    | xray => cases hSpares
    | anytls =>
      refine ⟨rfl, rfl, rfl, ?_⟩
      intro other
      cases other <;> rfl
  | setActive node => cases node <;> exact ⟨rfl, rfl, rfl, fun _ => rfl⟩
  | launch | reap | forget | forgetIf | cleaned => cases hSpares
  | _ => exact ⟨rfl, rfl, rfl, fun _ => rfl⟩

section

variable (hSpares : Act.sparesProcesses act)

include hSpares

lemma fit_exec (hFit : Fit s) : Fit (act.exec s).2 :=
  have hSpared := spares_exec hSpares s
  hFit.of_grows (wellFormed_exec hFit.wellFormed act) (.of_processes hSpared.processes)
    (by rw [hSpared.processes]) fun _ _ _ _ => hSpared.field _

lemma pre_starter (hFit : Fit s) : Pre .starter act s := by
  refine ⟨fit_exec hSpares hFit, ?_, ?_⟩
  · rintro rfl
    cases hSpares
  · rintro count rfl
    cases hSpares

lemma own_exec (hOwn : Own port P s) : Own port P (act.exec s).2 := by
  have hSame := spares_exec hSpares s
  exact
    { undisturbed := hSame.undisturbed.trans hOwn.undisturbed
      fit := fit_exec hSpares hOwn.fit
      port := fun number hNumber => hSame.port.trans (hOwn.port number hNumber)
      alive := by
        rw [Alive, hSame.processes]
        exact hOwn.alive }

end

section Undisturbed

section

variable (hSpares : Act.sparesProcesses act)

include hSpares

lemma holds_act {next : Nat → Program} (hNext : ∀ v, Holds .starter (Own port P) (next v)) :
  Holds .starter (Own port P) (.act act next) :=
  Job.holds_act (stable_own port P) (fun _ hOwn =>
    ⟨pre_starter hSpares hOwn.fit, own_exec hSpares hOwn⟩)
    hNext

lemma holds_perform
  (hNext : Holds .starter (Own port P) next) : Holds .starter (Own port P) (perform act next) :=
  holds_act hSpares fun _ => hNext

lemma holds_ask {next : Bool → Program} (hNext : ∀ yes, Holds .starter (Own port P) (next yes)) :
  Holds .starter (Own port P) (ask act next) :=
  holds_act hSpares fun _ => hNext _

end

lemma holds_fail : Holds .starter (Own port P) (finish false) := holds_perform rfl Job.holds_done

lemma holds_cancel : Holds .starter (Own port P) cancel := holds_perform rfl holds_fail

section

variable (engine : Engine) (config : Config) (hFree : ∀ other, ¬ P engine other)

include hFree

lemma own_launch (hOwn : Own port P s) :
  Own port (fun e c => P e c ∨ (e = engine ∧ c = config)) (s.launch engine config) where
  undisturbed := hOwn.undisturbed
  fit := by
    refine ⟨wellFormed_launch hOwn.fit.wellFormed _ _, ?_⟩
    intro pid process hGet hLives
    rw [process_launch]
    rcases getElem?_launch hGet with hOld | ⟨hNew, hEngine, _⟩
    · have hKnown := hOwn.alive process (mem_of_getElem? hOld) hLives
      split
      next hSame =>
        rw [hSame] at hKnown
        exact absurd hKnown (hFree _)
      · exact hOwn.fit.named pid process hOld hLives
    · rw [if_pos hEngine, hNew]
  port := by
    intro number hNumber
    rw [← hOwn.port number hNumber]
    cases engine <;> rfl
  alive := by
    intro process hMem hLives
    rcases mem_append.mp hMem with hOld | hNew
    · exact .inl (hOwn.alive process hOld hLives)
    · rw [mem_singleton.mp hNew]
      exact .inr ⟨rfl, rfl⟩

lemma holds_launch
  (hNext : Holds .starter (Own port fun e c => P e c ∨ (e = engine ∧ c = config)) next) :
  Holds .starter (Own port P) (perform (.launch engine config) next) := by
  refine Job.holds_act (stable_own port P) ?_ fun _ => hNext
  intro s hOwn
  have hAfter := own_launch engine config hFree hOwn
  exact ⟨⟨hAfter.fit, nofun, nofun⟩, hAfter⟩

end

lemma holds_captured (engine : Engine) {next : Option Nat → Program} (hNext : ∀ process,
  Holds .starter (fun s => Own port P s ∧ (s.engines engine).process = process) (next process)) :
  Holds .starter (Own port P) (captured engine next) := by
  refine Job.holds_act (B := fun v s => Own port P s ∧ (s.engines engine).process = decode v)
    (stable_own port P) ?_ fun v => hNext (decode v)
  intro s hOwn
  refine ⟨pre_starter rfl hOwn.fit, hOwn, ?_⟩
  exact (decode_capture engine s).symm

lemma fit_exit (hFit : Fit s) (pid : Nat) : Fit (s.exit pid) := by
  refine hFit.of_grows ?_ (grows_exit s pid) (by simp) fun _ _ _ _ => rfl
  exact wellFormed_exec hFit.wellFormed (.reap (some pid))

lemma fit_reap (hFit : Fit s) (process : Option Nat) : Fit ((reap process).exec s).2 := by
  cases process with
  | none => exact hFit
  | some pid => exact fit_exit hFit pid

lemma alive_reap (hAlive : Alive P s) (hFit : Fit s) (hField : (s.engines engine).process = process) :
  Alive (fun e c => P e c ∧ e ≠ engine) ((reap process).exec s).2 := by
  intro other hMem hLives
  have hCount : ((reap process).exec s).2.processes.length = s.processes.length := by
    cases process with
    | none => rfl
    | some => simp
  refine ⟨alive_of_grows hAlive (grows_exec _ s) hCount other hMem hLives, ?_⟩
  rintro rfl
  rcases mem_iff_getElem?.mp hMem with ⟨pid, hGet⟩
  have hNamed := (fit_reap hFit process).named pid other hGet hLives
  have hPid : process = some pid := by
    rw [← hField, ← hNamed]
    cases process <;> rfl
  rw [hPid] at hGet
  have hDead : (s.exit pid).isAlive pid := by
    rw [isAlive]
    simp only [exec] at hGet
    rw [hGet]
    exact hLives
  rw [isAlive_exit] at hDead
  simp at hDead

lemma holds_reap (engine : Engine)
  (process : Option Nat) (hNext : Holds .starter (Own port fun e c => P e c ∧ e ≠ engine) next) :
  Holds .starter (fun s => Own port P s ∧ (s.engines engine).process =
  process) (perform (.reap process) <| perform (.forget engine) next) := by
  have hForget :
    Holds .starter (Own port fun e c => P e c ∧ e ≠ engine) (perform (.forget engine) next) := by
    refine Job.holds_act (stable_own port _) ?_ fun _ => hNext
    intro s hOwn
    have hFit : Fit ((forget engine).exec s).2 := by
      refine hOwn.fit.of_grows (wellFormed_exec hOwn.fit.wellFormed _) (.of_processes rfl) rfl ?_
      intro pid other hGet hLives
      have hKnown := hOwn.alive other (mem_of_getElem? hGet) hLives
      simp only [exec, engines_modify, if_neg hKnown.2]
    refine ⟨⟨hFit, nofun, nofun⟩, ?_⟩
    exact
      { undisturbed := hOwn.undisturbed
        fit := hFit
        port := by cases engine <;> exact hOwn.port
        alive := hOwn.alive }
  refine Job.holds_act (B := fun _ => Own port fun e c => P e c ∧ e ≠ engine) ?_ ?_ fun _ => hForget
  · rintro s s' ⟨hOwn, hField⟩ hRely
    refine ⟨stable_own port P s s' hOwn hRely, ?_⟩
    rw [(hRely.frozen hOwn.undisturbed).1]
    exact hField
  · rintro s ⟨hOwn, hField⟩
    have hFit := fit_reap hOwn.fit process
    refine ⟨⟨hFit, nofun, nofun⟩, ?_⟩
    exact
      { undisturbed := by cases process <;> exact hOwn.undisturbed
        fit := hFit
        port := by cases process <;> exact hOwn.port
        alive := alive_reap hOwn.alive hOwn.fit hField }

end Undisturbed

-- Stops

/- A stop has begun; `start` still finds its own latched. -/
structure Halted (latched : Bool) (s : Manager) : Prop where
  disturbed : s.undisturbed = false
  fit : Fit s
  latch : latched = true → (s.engines .xray).latch = true

def Knows (role : Role) (latched : Bool) : Prop := role = .starter ∨ latched = false

lemma goes_of_rely (hRely : Rely role s s') : Goes s s' := by
  cases role with
  | starter => exact hRely.goes
  | stopper | cleaner => exact hRely

lemma stable_halted (hKnows : Knows role latched) : Job.Stable Rely role (Halted latched) := by
  intro s s' hHalted hRely
  have hGoes := goes_of_rely hRely
  refine ⟨hGoes.disturbed hHalted.disturbed, hGoes.fit, ?_⟩
  intro hLatched
  rcases hKnows with rfl | rfl
  · exact hRely.latch (hHalted.latch hLatched)
  · cases hLatched

def Act.isTidy : Act → Bool
| .latch _ true => true
| .setLive none => true
| .launched => true
| .capture _ => true
| .reap _ => true
| .setRunning _ false => true
| .setActive none => true
| _ => false

section

variable (hTidy : Act.isTidy act)

include hTidy

lemma yields_of_isTidy
  (hDisturbed : s.undisturbed = false) (hFit : Fit s) : Yields s (act.exec s).2 := by
  have hFields : (∀ engine, ((act.exec s).2.engines engine).process = (s.engines engine).process) ∧
    ((s.engines .xray).latch → ((act.exec s).2.engines .xray).latch) ∧
    (act.exec s).2.processes.length = s.processes.length := by
    cases act with
    | latch engine value =>
      refine ⟨?_, ?_, rfl⟩
      · intro other
        cases engine <;> cases other <;> rfl
      · cases value with
        | false => cases hTidy
        | true =>
          cases engine with
          | xray => exact fun _ => rfl
          | anytls => exact id
    | setRunning engine =>
      refine ⟨?_, ?_, rfl⟩
      · intro other
        cases engine <;> cases other <;> rfl
      · cases engine <;> exact id
    | reap process =>
      cases process with
      | none => exact ⟨fun _ => rfl, id, rfl⟩
      | some => exact ⟨fun _ => rfl, id, by simp⟩
    | setActive node => cases node <;> exact ⟨fun _ => rfl, id, rfl⟩
    | setLive | launched | capture => exact ⟨fun _ => rfl, id, rfl⟩
    | _ => cases hTidy
  rcases hFields with ⟨hField, hLatch, hCount⟩
  exact
    { frozen := fun hCalm => by
        rw [hDisturbed] at hCalm
        cases hCalm
      disturbed := disturbed_exec act
      latch := hLatch
      count := hCount
      grows := grows_exec act s
      fit := hFit.of_grows (wellFormed_exec hFit.wellFormed act) (grows_exec act s) hCount
        fun _ _ _ _ => hField _ }

lemma pre_of_isTidy (hHalted : Halted latched s) (role : Role) : Pre role act s := by
  have hYields := yields_of_isTidy hTidy hHalted.disturbed hHalted.fit
  have hOver : ∀ count, act ≠ .cleaned count := by
    rintro count rfl
    cases hTidy
  cases role with
  | starter =>
    refine ⟨hYields.fit, ?_, hOver⟩
    rintro rfl
    cases hTidy
  | stopper | cleaner =>
    exact ⟨hHalted.disturbed, hYields, fun count hSame => absurd hSame (hOver count)⟩

lemma halted_exec (hHalted : Halted latched s) : Halted latched (act.exec s).2 := by
  have hYields := yields_of_isTidy hTidy hHalted.disturbed hHalted.fit
  exact ⟨hYields.disturbed hHalted.disturbed, hYields.fit, hYields.latch ∘ hHalted.latch⟩

lemma holds_tidy (hKnows : Knows role latched)
  {next : Nat → Program} (hNext : ∀ v, Holds role (Halted latched) (next v)) :
  Holds role (Halted latched) (.act act next) :=
  Job.holds_act (stable_halted hKnows) (fun _ hHalted =>
    ⟨pre_of_isTidy hTidy hHalted role, halted_exec hTidy hHalted⟩)
    hNext

end

/-
  The captured process is the only one of its engine that may be alive, of those that were
  launched before.
-/
structure Caught (engine : Engine) (count : Nat) (process : Option Nat) (s : Manager) : Prop where
  bound : count ≤ s.processes.length
  launched : ∀ pid, process = some pid → pid < s.processes.length
  only : ∀ pid < count, ∀ other, s.processes[pid]? = some other →
    other.engine = engine → other.alive = true → process = some pid

lemma caught_of_grows (hCaught : Caught engine count process s)
  (hGrows : Grows s s') : Caught engine count process s' where
  bound := hCaught.bound.trans hGrows.length
  launched := fun pid hSome => (hCaught.launched pid hSome).trans_le hGrows.length
  only := by
    intro pid hShort other hGet hOwn hLives
    rcases hGrows.same pid (hShort.trans_le hCaught.bound)
      other hGet with ⟨before, hBefore, hEngine, _, hDies⟩
    exact hCaught.only pid hShort before hBefore (hEngine ▸ hOwn) (hDies hLives)

section

variable (hKnows : Knows role latched) (engine : Engine) (count : Nat)

include hKnows

lemma stable_caught (process : Option Nat) :
  Job.Stable Rely role fun s => Halted latched s ∧ Caught engine count process s := by
  rintro s s' ⟨hHalted, hCaught⟩ hRely
  exact ⟨stable_halted hKnows s s' hHalted hRely,
    caught_of_grows hCaught (goes_of_rely hRely).grows⟩

lemma holds_capture {next : Option Nat → Program} (hNext : ∀ process,
  Holds role (fun s => Halted latched s ∧ Caught engine count process s) (next process)) :
  Holds role (fun s => Halted latched s ∧ count ≤ s.processes.length) (captured engine next) := by
  refine Job.holds_act (B := fun v s => Halted latched s ∧ Caught engine count (decode v) s)
    ?_ ?_ fun v => hNext (decode v)
  · rintro s s' ⟨hHalted, hCount⟩ hRely
    exact ⟨stable_halted hKnows s s' hHalted hRely, hCount.trans (goes_of_rely hRely).grows.length⟩
  · rintro s ⟨hHalted, hCount⟩
    refine ⟨pre_of_isTidy rfl hHalted role, halted_exec rfl hHalted, ?_⟩
    rw [decode_capture]
    refine ⟨hCount, hHalted.fit.wellFormed engine, ?_⟩
    rintro pid _ other hGet rfl hLives
    exact hHalted.fit.named pid other hGet hLives

end

structure Cleared (engine : Engine) (count : Nat) (s : Manager) : Prop where
  halted : Halted false s
  bound : count ≤ s.processes.length
  gone : Gone engine count s

lemma stable_cleared (engine : Engine) (count : Nat) :
  Job.Stable Rely .cleaner (Cleared engine count) := by
  intro s s' hCleared hRely
  exact ⟨stable_halted (.inr rfl) s s' hCleared.halted hRely,
    hCleared.bound.trans hRely.grows.length, gone_of_grows hCleared.gone hCleared.bound hRely.grows⟩

lemma holds_cleared (hTidy : Act.isTidy act) (hNext : Holds .cleaner (Cleared engine count) next) :
  Holds .cleaner (Cleared engine count) (perform act next) := by
  refine Job.holds_act (B := fun _ => Cleared engine count)
    (stable_cleared engine count) ?_ fun _ => hNext
  intro s hCleared
  have hGrows := grows_exec act s
  exact ⟨pre_of_isTidy hTidy hCleared.halted .cleaner, halted_exec hTidy hCleared.halted,
    hCleared.bound.trans hGrows.length, gone_of_grows hCleared.gone hCleared.bound hGrows⟩

def Dead (process : Option Nat) (s : Manager) : Prop :=
  ∀ pid, process = some pid → pid < s.processes.length ∧ s.isAlive pid = false

lemma dead_reap (hLaunched : ∀ pid, process = some pid → pid < s.processes.length) :
  Dead process ((reap process).exec s).2 := by
  intro pid hSome
  rw [hSome]
  constructor
  · exact (hLaunched pid hSome).trans_le (grows_exec (.reap (some pid)) s).length
  · rw [exec, isAlive_exit]
    simp

lemma cleared_reap (hHalted : Halted false s) (hCaught : Caught engine count process s) :
  Cleared engine count ((reap process).exec s).2 := by
  have hAfter := caught_of_grows hCaught (grows_exec (.reap process) s)
  refine ⟨halted_exec rfl hHalted, hAfter.bound, ?_⟩
  intro pid hShort other hGet hOwn
  by_contra hLives
  rw [not_eq_false] at hLives
  have hSome := hAfter.only pid hShort other hGet hOwn hLives
  have hDead := (dead_reap hCaught.launched pid hSome).2
  rw [isAlive, hGet] at hDead
  simp [hLives] at hDead

lemma fit_forgetIf (engine : Engine) (hFit : Fit s) (hDead : Dead process s) :
  Fit ((forgetIf engine process).exec s).2 := by
  refine hFit.of_grows (wellFormed_exec hFit.wellFormed _) (.of_processes rfl) rfl ?_
  intro pid other hGet hLives
  simp only [exec, engines_modify]
  split
  next hSame =>
    split
    next hCaptured =>
      have hNamed := hFit.named pid other hGet hLives
      rw [hSame, hCaptured] at hNamed
      have hGone := (hDead pid hNamed).2
      change s.processes[pid]? = some other at hGet
      rw [isAlive, hGet] at hGone
      simp [hLives] at hGone
    · rw [hSame]
  · rfl

lemma latch_forgetIf (s : Manager) (engine other : Engine) (process : Option Nat) :
  (((forgetIf engine process).exec s).2.engines other).latch = (s.engines other).latch := by
  simp only [exec, engines_modify]
  split
  next hSame => split <;> rw [hSame]
  · rfl

lemma holds_cleanup (engine : Engine) (count : Nat) (process : Option Nat)
  (hNext : Holds .cleaner (Cleared engine count) next) : Holds .cleaner (fun s => Halted false s ∧
  Caught engine count process s) (cleanup engine process next) := by
  have hForget : Holds .cleaner (fun s => Cleared engine count s ∧ Dead process s)
    (perform (.forgetIf engine process) <| perform (.setRunning engine false) next) := by
    refine Job.holds_act (B := fun _ => Cleared engine count) ?_ ?_ fun _ => holds_cleared rfl hNext
    · rintro s s' ⟨hCleared, hDead⟩ hRely
      refine ⟨stable_cleared engine count s s' hCleared hRely, ?_⟩
      intro pid hSome
      rcases hDead pid hSome with ⟨hOld, hGone⟩
      exact ⟨hOld.trans_le hRely.grows.length, hRely.grows.dead hOld hGone⟩
    · rintro s ⟨hCleared, hDead⟩
      have hDisturbed := hCleared.halted.disturbed
      have hFit := fit_forgetIf engine hCleared.halted.fit hDead
      have hYields : Yields s ((forgetIf engine process).exec s).2 :=
        { frozen := fun hCalm => by
            rw [hDisturbed] at hCalm
            cases hCalm
          disturbed := id
          latch := fun hLatch => by
            rw [latch_forgetIf]
            exact hLatch
          count := rfl
          grows := .of_processes rfl
          fit := hFit }
      exact ⟨⟨hDisturbed, hYields, nofun⟩, ⟨hDisturbed, hFit, nofun⟩, hCleared.bound, hCleared.gone⟩
  refine Job.holds_act (B := fun _ s => Cleared engine count s ∧ Dead process s)
    (stable_caught (.inr rfl) engine count process) ?_ fun _ => hForget
  rintro s ⟨hHalted, hCaught⟩
  exact ⟨pre_of_isTidy rfl hHalted .cleaner,
    cleared_reap hHalted hCaught, dead_reap hCaught.launched⟩

lemma holds_fork_cleanup
  (hKnows : Knows role latched) (engine : Engine) (count : Nat) (process : Option Nat)
  {last : Program} (hLast : Holds .cleaner (Cleared engine count) last)
  (hNext : Holds role (Halted latched) next) : Holds role (fun s => Halted latched s ∧
  Caught engine count process s) (.fork .cleaner (cleanup engine process last) next) := by
  have hForks : Forks role .cleaner := rfl
  apply Job.holds_fork hForks (stable_caught hKnows engine count process)
  · exact (holds_cleanup engine count process hLast).mono
      fun _ hBoth => ⟨⟨hBoth.1.disturbed, hBoth.1.fit, nofun⟩, hBoth.2⟩
  · exact hNext.mono fun _ hBoth => hBoth.1

section

variable (hKnows : Knows role latched) (hNext : Holds role (Halted latched) next)

include hKnows hNext

/- The part of `AnyTlsManager.stop` behind its latch. -/
lemma holds_releaseSidecar : Holds role (Halted latched)
  (captured .anytls fun process => .fork .cleaner (cleanup .anytls process .done) next) := by
  refine Job.Holds.mono (holds_capture hKnows .anytls 0 ?_)
    fun _ hHalted => ⟨hHalted, Nat.zero_le _⟩
  intro process
  exact holds_fork_cleanup hKnows .anytls 0 process Job.holds_done hNext

/- The part of `stop` behind its latch. -/
lemma holds_release :
  Holds role (Halted latched) (stopSidecar <| perform (.setLive none) <| .act .launched
  fun count => captured .xray fun process => .fork .cleaner (cleanup .xray process <| perform
  (.setActive none) <| perform (.cleaned count) .done) next) := by
  have hLast : ∀ count, Holds .cleaner
    (Cleared .xray count) (perform (.setActive none) <| perform (.cleaned count) .done) := by
    intro count
    apply holds_cleared rfl
    refine Job.holds_act (B := fun _ _ => True)
      (stable_cleared .xray count) ?_ fun _ => Job.holds_done
    intro s hCleared
    have hDisturbed := hCleared.halted.disturbed
    refine ⟨⟨hDisturbed, ?_, ?_⟩, trivial⟩
    · exact
        { frozen := fun hCalm => by
            rw [hDisturbed] at hCalm
            cases hCalm
          disturbed := id
          latch := id
          count := rfl
          grows := .of_processes rfl
          fit := ⟨hCleared.halted.fit.wellFormed, hCleared.halted.fit.named⟩ }
    · rintro _ ⟨rfl⟩
      exact ⟨hCleared.bound, hCleared.gone⟩
  apply holds_tidy rfl hKnows
  intro _
  apply holds_releaseSidecar hKnows
  apply holds_tidy rfl hKnows
  intro _
  refine Job.holds_act (B := fun count s => Halted latched s ∧ count ≤ s.processes.length)
    (stable_halted hKnows) ?_ ?_
  · intro s hHalted
    exact ⟨pre_of_isTidy rfl hHalted role, halted_exec rfl hHalted, le_rfl⟩
  · intro count
    apply holds_capture hKnows
    intro process
    exact holds_fork_cleanup hKnows .xray count process (hLast count) hNext

end

/- A stop that is not part of a `start`. -/
lemma holds_stop : Holds .stopper (Halted false) (stop .done) := by
  apply holds_tidy rfl (.inr rfl)
  intro _
  exact holds_release (.inr rfl) Job.holds_done

section Internal

lemma halted_latch (hFit : Fit s) (engine : Engine) :
  Halted (decide (engine = .xray)) ((latch engine true).exec s).2 := by
  refine ⟨by simp, ?_, ?_⟩
  · refine hFit.of_grows (wellFormed_exec hFit.wellFormed _) (.of_processes rfl) rfl ?_
    intro pid other _ _
    generalize other.engine = which
    cases engine <;> cases which <;> rfl
  · intro hXray
    rw [of_decide_eq_true hXray]
    rfl

lemma holds_latch
  (engine : Engine) (hNext : Holds .starter (Halted (decide (engine = .xray))) next) :
  Holds .starter (Own port P) (perform (.latch engine true) next) := by
  refine Job.holds_act (stable_own port P) ?_ fun _ => hNext
  intro s hOwn
  have hHalted := halted_latch hOwn.fit engine
  exact ⟨⟨hHalted.fit, nofun, nofun⟩, hHalted⟩

/- A stop of a `start` that has to take its tunnel down. -/
lemma holds_stop_own (hNext : Holds .starter (Halted true) next) :
  Holds .starter (Own port P) (stop next) :=
  holds_latch .xray (holds_release (.inl rfl) hNext)

end Internal

-- The Start

/- What is left of a `start` that was stopped. -/
lemma holds_halted (hSpares : Act.sparesProcesses act)
  (hLatch : ∀ s, ((act.exec s).2.engines .xray).latch = (s.engines .xray).latch)
  (hNext : Holds .starter (Halted latched) next) :
  Holds .starter (Halted latched) (perform act next) := by
  refine Job.holds_act (B := fun _ => Halted latched) (stable_halted (.inl rfl)) ?_ fun _ => hNext
  intro s hHalted
  refine ⟨pre_starter hSpares hHalted.fit, disturbed_exec act hHalted.disturbed,
    fit_exec hSpares hHalted.fit, ?_⟩
  rw [hLatch]
  exact hHalted.latch

lemma holds_halted_finish (latched : Bool) : Holds .starter (Halted latched) (finish false) :=
  holds_halted rfl (fun _ => rfl) Job.holds_done

lemma holds_halted_latch
  {next : Bool → Program} (hNext : Holds .starter (Halted true) (next true)) :
  Holds .starter (Halted true) (ask (.readLatch .xray) next) := by
  refine Job.holds_act (B := fun v s => Halted true s ∧ v = 1) (stable_halted (.inl rfl)) ?_ ?_
  · intro s hHalted
    refine ⟨pre_starter rfl hHalted.fit, hHalted, ?_⟩
    simp [hHalted.latch rfl]
  · rintro v s ⟨hHalted, rfl⟩
    exact hNext s hHalted

def Free (_ : Engine) (_ : Config) : Prop := False

section Race

lemma holds_launchProbe (engine : Engine) (basePort : Nat) (nodes : List Node) (starts : Bool)
  (hFree : ∀ config, ¬ P engine config) (hNext : Holds .starter (Own port fun e c =>
  P e c ∨ (e = engine ∧ (!nodes.isEmpty && starts))) next) :
  Holds .starter (Own port P) (launchProbe engine basePort nodes starts next) := by
  have hNone : Holds .starter (Own port P) next :=
    hNext.mono fun _ hOwn => hOwn.mono fun _ _ => .inl
  unfold launchProbe launch
  split
  · exact hNone
  next hNodes =>
    split
    next hStarts =>
      apply holds_launch engine _ hFree
      refine hNext.mono fun _ hOwn => hOwn.mono ?_
      rintro e c (hOld | ⟨hNew, _⟩)
      · exact .inl hOld
      · refine .inr ⟨hNew, ?_⟩
        simp [hNodes, hStarts]
    · exact holds_perform rfl hNone

lemma holds_killProcess (hNext : Holds .starter (Own port fun e c => P e c ∧ e ≠ .xray) next) :
  Holds .starter (Own port P) (killProcess next) := by
  apply holds_perform rfl
  apply holds_perform rfl
  apply holds_captured
  intro process
  exact holds_reap .xray process hNext

lemma holds_killProbe (hNext : Holds .starter (Own port fun e c => P e c ∧ e ≠ .anytls) next) :
  Holds .starter (Own port P) (killProbe next) := by
  apply holds_captured
  intro process
  exact holds_reap .anytls process hNext

lemma holds_kill (hNext : Holds .starter (Own port Free) next) :
  Holds .starter (Own port P) (killProcess (killProbe next)) := by
  apply holds_killProcess
  apply holds_killProbe
  refine hNext.mono fun _ hOwn => hOwn.mono ?_
  rintro e c ⟨⟨_, hXray⟩, hAnytls⟩
  cases e with
  | xray => exact hXray rfl
  | anytls => exact hAnytls rfl

lemma holds_raceSlice
  (call : Call) (slice : Nat) (candidates : List Node) {next : Option Node → Program}
  (hNext : ∀ winner, Holds .starter (Own port Free) (next winner)) :
  Holds .starter (Own port Free) (raceSlice call slice candidates next) := by
  unfold raceSlice
  apply holds_launchProbe
  · exact fun _ => id
  apply holds_launchProbe
  · rintro config (hFree | ⟨hOther, _⟩)
    · exact hFree
    · cases hOther
  split
  next hNone =>
    rw [and_eq_true, not_eq_true', not_eq_true'] at hNone
    apply holds_perform rfl
    refine (hNext none).mono fun _ hOwn => hOwn.mono ?_
    rintro e c ((hFree | ⟨_, hXray⟩) | ⟨_, hAnytls⟩)
    · exact hFree
    · cases hNone.1.symm.trans hXray
    · cases hNone.2.symm.trans hAnytls
  · apply holds_ask rfl
    intro latched
    split
    · exact holds_kill (hNext _)
    · exact holds_perform rfl (holds_kill (hNext none))

lemma holds_raceSlices (call : Call)
  {next : Node → Program} (hNext : ∀ winner, Holds .starter (Own port Free) (next winner))
  (slices : List Nat) : Holds .starter (Own port Free) (raceSlices call next slices) := by
  induction slices with
  | nil => exact holds_fail
  | cons _ _ ih =>
    apply holds_ask rfl
    intro latched
    split
    · exact holds_cancel
    · dsimp only
      split
      · exact holds_fail
      · apply holds_raceSlice
        intro winner
        cases winner with
        | none => exact ih
        | some winner => exact hNext winner

end Race

def Tunnel (node : Node) (port : Nat) (_ : Engine) (config : Config) : Prop :=
  ∃ split, config = .tunnel node port split

section Tunnels

variable {port : Nat} {winner : Node}

lemma holds_attempt (engine : Engine) (starts : Bool) (split : Option Profile)
  (listens : Bool) {next : Bool → Program} {other : Program}
  (hNext : ∀ up, Holds .starter (Own (some port) (Tunnel winner port)) (next up))
  (hOther : Holds .starter (Own (some port) Free) other) : Holds .starter (Own (some port) Free)
    (launch engine starts (.tunnel winner port split) fun started =>
      if started then awaitListener port listens next else other) := by
  unfold launch
  split
  · apply holds_launch engine _ fun _ => id
    refine Job.Holds.mono (A := Own (some port) (Tunnel winner port)) ?_ ?_
    · exact holds_ask rfl fun _ => hNext _
    · refine fun _ hOwn => hOwn.mono ?_
      rintro e c (hFree | ⟨_, hConfig⟩)
      · exact absurd hFree id
      · exact ⟨split, hConfig⟩
  · exact holds_perform rfl hOther

lemma holds_store : Holds .starter
  (Own (some port) (Tunnel winner port)) (perform (.setActive (some winner)) (finish true)) := by
  have hReturn : Holds .starter (fun s =>
        Own (some port) (Tunnel winner port) s ∧ s.activeNode = some winner)
      (finish true) := by
    refine Job.holds_act (B := fun _ _ => True) ?_ ?_ fun _ => Job.holds_done
    · rintro s s' ⟨hOwn, hNode⟩ hRely
      refine ⟨stable_own _ _ s s' hOwn hRely, ?_⟩
      exact (hRely.frozen hOwn.undisturbed).2.1.trans hNode
    · rintro s ⟨hOwn, hNode⟩
      refine ⟨⟨⟨hOwn.fit.wellFormed, hOwn.fit.named⟩, ?_, nofun⟩, trivial⟩
      intro _ process hMem hLives _
      rcases hOwn.alive process hMem hLives with ⟨split, hConfig⟩
      exact ⟨winner, split, hNode, by rw [hOwn.port port rfl, hConfig]⟩
  refine Job.holds_act (B := fun _ s =>
    Own (some port) (Tunnel winner port) s ∧ s.activeNode = some winner)
    (stable_own _ _) ?_ fun _ => hReturn
  intro s hOwn
  exact ⟨pre_starter rfl hOwn.fit, own_exec rfl hOwn, rfl⟩

lemma holds_commit : Holds .starter (Own (some port) (Tunnel winner port))
  (commit winner) := holds_perform rfl holds_store

variable (call : Call) (winner : Node)

lemma holds_sidecarTunnel :
  Holds .starter (Own (some call.port) Free) (sidecarTunnel call winner) := by
  have hDown : Holds .starter (Own (some call.port) Free) (perform .adoptError (finish false)) :=
    holds_perform rfl holds_fail
  have hHalted : Holds .starter (Halted false) (perform .adoptError (finish false)) :=
    holds_halted rfl (fun _ => rfl) (holds_halted_finish false)
  apply holds_perform rfl
  apply holds_perform rfl
  apply holds_ask rfl
  intro stopped
  split
  · exact hDown
  · apply holds_attempt
    · intro up
      split
      · apply holds_perform rfl
        apply holds_perform rfl
        exact holds_perform rfl holds_store
      · exact holds_perform rfl (holds_latch .anytls (holds_releaseSidecar (.inl rfl) hHalted))
    · exact hDown

lemma holds_nodeOnly : Holds .starter (Own (some call.port) Free) (nodeOnly call winner) := by
  apply holds_ask rfl
  intro latched
  split
  · exact holds_cancel
  · apply holds_attempt
    · intro up
      split
      · exact holds_commit
      · exact holds_perform rfl (holds_stop_own (holds_halted_finish true))
    · exact holds_fail

lemma holds_nodeOnly_halted : Holds .starter (Halted true) (nodeOnly call winner) := by
  apply holds_halted_latch
  rw [if_pos rfl]
  exact holds_halted rfl (fun _ => rfl) (holds_halted_finish true)

section

variable (position : Nat) (profiles : List Profile)

lemma holds_tryProfiles_halted : Holds .starter
  (Halted true) (tryProfiles call winner (nodeOnly call winner) position profiles) := by
  cases profiles with
  | nil => exact holds_halted rfl (fun _ => rfl) (holds_nodeOnly_halted call winner)
  | cons =>
    apply holds_halted_latch
    rw [if_pos rfl]
    exact holds_nodeOnly_halted call winner

lemma holds_tryProfiles : Holds .starter (Own (some call.port) Free)
  (tryProfiles call winner (nodeOnly call winner) position profiles) := by
  induction profiles generalizing position with
  | nil => exact holds_perform rfl (holds_nodeOnly call winner)
  | cons _ rest ih =>
    have hStop : Holds .starter (Own (some call.port) (Tunnel winner call.port))
      (stop <| tryProfiles call winner (nodeOnly call winner) (position + 1) rest) :=
      holds_stop_own (holds_tryProfiles_halted call winner _ rest)
    apply holds_ask rfl
    intro latched
    split
    · exact holds_nodeOnly call winner
    · apply holds_perform rfl
      apply holds_attempt
      · intro up
        split
        · exact hStop
        · split
          · exact holds_commit
          · split
            · exact holds_perform rfl holds_commit
            · exact hStop
      · exact ih _

end

lemma holds_tunnel : Holds .starter (Own (some call.port) Free) (tunnel call winner) := by
  apply holds_ask rfl
  intro latched
  split
  · exact holds_cancel
  · split
    · exact holds_sidecarTunnel call winner
    · apply holds_perform rfl
      unfold startSmartSplit
      split
      · exact holds_nodeOnly call winner
      · exact holds_tryProfiles call winner 0 call.candidates

end Tunnels

lemma own_listenOn (number : Nat)
  (hOwn : Own port P s) : Own (some number) P ((listenOn .xray number).exec s).2 := { hOwn with
  fit := by
    refine hOwn.fit.of_grows (wellFormed_exec hOwn.fit.wellFormed _) (.of_processes rfl) rfl ?_
    intro pid other _ _
    generalize other.engine = which
    cases which <;> rfl
  port := by
    rintro _ ⟨rfl⟩
    rfl }

lemma holds_start (call : Call) : Holds .starter (Own none Free) (start call) := by
  apply holds_perform rfl
  apply holds_perform rfl
  refine Job.holds_act (B := fun _ => Own (some call.port) Free) (stable_own _ _) ?_ ?_
  · intro s hOwn
    have hAfter := own_listenOn call.port hOwn
    exact ⟨⟨hAfter.fit, nofun, nofun⟩, hAfter⟩
  · intro _
    split
    · exact holds_perform rfl holds_fail
    · exact holds_raceSlices call (holds_tunnel call) _

lemma holds_rotate (call : Call) : Holds .starter (Own none Free) (rotate call) :=
  holds_act rfl fun _ => holds_start _

-- Runs

structure Cleaned (s : Manager) : Prop where
  bound : s.cleaned ≤ s.processes.length
  gone : Gone .xray s.cleaned s

structure Kept (s : State) : Prop where
  sat : s.Sat Act.exec Pre Rely Forks
  single : s.Single .starter
  fit : Fit s.shared
  cleaned : Cleaned s.shared

lemma cleaned_of_grows (hCleaned : Cleaned s) (hGrows : Grows s s')
  (hSame : s'.cleaned = s.cleaned) : Cleaned s' := by
  refine ⟨?_, ?_⟩
  · rw [hSame]
    exact hCleaned.bound.trans hGrows.length
  · rw [hSame]
    exact gone_of_grows hCleaned.gone hCleaned.bound hGrows

lemma cleaned_exec (hCleaned : Cleaned s)
  (hOver : ∀ count, act = .cleaned count → count ≤ s.processes.length ∧ Gone .xray count s) :
  Cleaned (act.exec s).2 := by
  cases act with
  | cleaned count =>
    rcases hOver count rfl with ⟨hBound, hGone⟩
    refine ⟨max_le hCleaned.bound hBound, ?_⟩
    intro pid hShort process hGet hXray
    change pid < max s.cleaned count at hShort
    have hEither : pid < s.cleaned ∨ pid < count := by omega
    rcases hEither with hOld | hNew
    · exact hCleaned.gone pid hOld process hGet hXray
    · exact hGone pid hNew process hGet hXray
  | reap process => exact cleaned_of_grows hCleaned (grows_exec _ s) (by cases process <;> rfl)
  | setActive node => exact cleaned_of_grows hCleaned (grows_exec _ s) (by cases node <;> rfl)
  | _ => exact cleaned_of_grows hCleaned (grows_exec _ s) rfl

lemma fit_of_pre (hPre : Pre role act s) : Fit (act.exec s).2 := by
  cases role with
  | starter => exact hPre.1
  | stopper | cleaner => exact hPre.2.1.fit

lemma cleaned_of_pre (hPre : Pre role act s) (hCleaned : Cleaned s) : Cleaned (act.exec s).2 := by
  apply cleaned_exec hCleaned
  intro count hSame
  cases role with
  | starter => exact absurd hSame (hPre.2.2 count)
  | stopper | cleaner => exact hPre.2.2 count hSame

lemma rely_of_run {s : State}
  (hKept : Kept s) {next : Nat → Program} (hThread : s.threads[i]? = some (role, .act act next))
  (hPre : Pre role act s.shared) {j : Nat} (hOther : j ≠ i) (hGet : s.threads[j]? = some thread)
  (hLive : thread.2.isDone = false) : Rely thread.1 s.shared (act.exec s.shared).2 := by
  cases role with
  | stopper | cleaner => exact hPre.2.1.rely _
  | starter =>
    have hGoes : Goes s.shared (act.exec s.shared).2 :=
      ⟨disturbed_exec act, grows_exec act s.shared, hPre.1⟩
    cases hRole : thread.1 with
    | starter => exact absurd (hKept.single hGet hThread hRole rfl hLive rfl) hOther
    | stopper | cleaner => exact hGoes

lemma kept_run
  {s s' : State} (hKept : Kept s) (hRun : s.run exec i true = some s') : Kept s' := by
  have hRefl := (Yields.refl hKept.fit).rely
  have hForks : ∀ other, ¬ Forks other .starter := nofun
  have hSat := sat_run hKept.sat hRefl rely_trans
    (fun hThread hPre _ _ hOther hGet hLive => rely_of_run hKept hThread hPre hOther hGet hLive)
    hRun
  have hSingle := single_run hForks hKept.sat hKept.single hRun
  rcases shared_run hRun with hSame | ⟨role, act, next, hThread, hShared⟩
  · exact ⟨hSat, hSingle, hSame ▸ hKept.fit, hSame ▸ hKept.cleaned⟩
  · have hPre := pre_of_sat hKept.sat hRefl hThread
    refine ⟨hSat, hSingle, ?_, ?_⟩
    · rw [hShared]
      exact fit_of_pre hPre
    · rw [hShared]
      exact cleaned_of_pre hPre hKept.cleaned

lemma kept_exit {s : State} (hKept : Kept s) (pid : Nat) :
  Kept { s with shared := s.shared.exit pid } := by
  have hExit : Yields s.shared (s.shared.exit pid) :=
    { frozen := fun hCalm => ⟨rfl, rfl, hCalm⟩
      disturbed := id
      latch := id
      count := by simp
      grows := grows_exit s.shared pid
      fit := fit_exit hKept.fit pid }
  refine ⟨?_, hKept.single, hExit.fit, cleaned_of_grows hKept.cleaned hExit.grows rfl⟩
  exact sat_shared hKept.sat rely_trans fun _ _ _ => hExit.rely _

lemma kept_start {s s' : State} (hKept : Kept s) (hDone : ∀ thread ∈ s.threads, thread.2.isDone)
  (hFree : ∀ process ∈ s.shared.processes, process.alive = false)
  {program : Program} (hProgram : Holds .starter (Own none Free) program)
  (hEnter : enter s program = some s') : Kept s' := by
  unfold enter at hEnter
  split at hEnter
  next hLock =>
    cases hEnter
    have hFit : Fit (s.shared.arrive true) := ⟨hKept.fit.wellFormed, hKept.fit.named⟩
    have hOwn : Own none Free (s.shared.arrive true) :=
      { undisturbed := rfl
        fit := hFit
        port := nofun
        alive := fun process hMem hLives => by
          rw [hFree process hMem] at hLives
          cases hLives }
    refine ⟨sat_spawn ?_ (hProgram _ hOwn), ?_, hFit,
      ⟨hKept.cleaned.bound, hKept.cleaned.gone⟩⟩
    · apply sat_shared hKept.sat rely_trans
      intro thread hMem hLive
      rw [hDone thread hMem] at hLive
      cases hLive
    · exact single_spawn hKept.single program fun _ => hLock
  · cases hEnter

lemma kept_stop {s : State} (hKept : Kept s) (hLock : s.Without .starter) :
  Kept (spawn { s with shared := s.shared.arrive false } .stopper (stop .done)) := by
  have hFit : Fit (s.shared.arrive false) := ⟨hKept.fit.wellFormed, hKept.fit.named⟩
  have hHalted : Halted false (s.shared.arrive false) := ⟨rfl, hFit, nofun⟩
  refine ⟨sat_spawn ?_ (holds_stop _ hHalted), ?_, hFit,
    ⟨hKept.cleaned.bound, hKept.cleaned.gone⟩⟩
  · apply sat_shared hKept.sat rely_trans
    intro thread hMem hLive
    have hGoes : Goes s.shared (s.shared.arrive false) := ⟨fun _ => rfl, .of_processes rfl, hFit⟩
    cases hRole : thread.1 with
    | starter =>
      rw [hLock thread hMem hRole] at hLive
      cases hLive
    | stopper | cleaner => exact hGoes
  · exact single_spawn hKept.single _ nofun

lemma kept_step {s s' : State} {move : Move}
  (hKept : Kept s) (hOk : Orderly s move) (hStep : step s move = some s') : Kept s' := by
  cases move with
  | run => exact kept_run hKept hStep
  | start call => exact kept_start hKept hOk.1 hOk.2 (holds_start call) hStep
  | rotate call => exact kept_start hKept hOk.1 hOk.2 (holds_rotate call) hStep
  | stop =>
    cases hStep
    exact kept_stop hKept hOk.1
  | exit pid =>
    cases hStep
    exact kept_exit hKept pid

lemma kept_launchState : Kept launchState where
  sat := nofun
  single := nofun
  fit := by
    refine ⟨?_, nofun⟩
    intro engine pid hField
    cases engine <;> cases hField
  cleaned := ⟨le_rfl, nofun⟩

lemma Kept.owned {s : State} (hKept : Kept s) : Owned s := by
  refine ⟨?_, hKept.cleaned.gone⟩
  intro thread next hThread
  have hPre := pre_of_sat hKept.sat (Yields.refl hKept.fit).rely hThread
  exact hPre.2.1 rfl

/-
  If each call of `start` and `rotate` finds no process alive and no cleanup at work, then no
  process is ever lost.
-/
theorem owned_of_orderly
    {s : State}
    (hRun : Run.Reaches step Orderly launchState s) :
    Owned s :=
  (hRun.invariant kept_launchState kept_step).owned

instance OneAtATime.decidable (s : State) : ∀ move, Decidable (OneAtATime s move)
| .run _ => inferInstanceAs (Decidable True)
| .exit _ => inferInstanceAs (Decidable True)
| .start _ | .rotate _ | .stop =>
  inferInstanceAs (Decidable (s.Without .starter ∧ s.Without .stopper))

instance Orderly.decidable (s : State) : ∀ move, Decidable (Orderly s move)
| .start _ | .rotate _ =>
  inferInstanceAs (Decidable ((∀ thread ∈ s.threads, thread.2.isDone = true) ∧
    ∀ process ∈ s.shared.processes, process.alive = false))
| .run thread => OneAtATime.decidable s (.run thread)
| .exit pid => OneAtATime.decidable s (.exit pid)
| .stop => OneAtATime.decidable s .stop

def secondCall : Call := { plainCall with ranked := [sampleNode .vless "192.0.2.2"] }

/- A tunnel, its stop with all cleanups, and a rotation. -/
theorem second_tunnel_owned : ∃ s, Run.Reaches step Orderly launchState s ∧
  s.shared.cleaned = 2 ∧ s.shared.returned = some true ∧ Owned s := by
  let events : List Move :=
    .start plainCall :: replicate 22 (.run 0) ++ .stop :: replicate 8 (.run 1) ++
      replicate 3 (.run 2) ++
      replicate 5 (.run 3) ++
      .rotate secondCall :: replicate 23 (.run 4)
  have hTaken : Run.Taken step Orderly launchState events := by decide +kernel
  rcases Run.exists_reaches step Orderly launchState (fun s : State =>
        decide (s.shared.cleaned = 2 ∧ s.shared.returned = some true))
      events hTaken (by decide +kernel) with
    ⟨s, hRun, hEnd⟩
  have hEnd := of_decide_eq_true hEnd
  exact ⟨s, hRun, hEnd.1, hEnd.2, owned_of_orderly hRun⟩

/- A thread that is about to return `true`. -/
def returning (thread : Role × Program) : Bool :=
  match thread with
  | (.starter, .act (.returns true) _) => true
  | _ => false

lemma exists_of_returning (hReturning : returning thread) :
  ∃ next, thread = (.starter, .act (.returns true) next) := by
  unfold returning at hReturning
  split at hReturning
  next next => exact ⟨next, rfl⟩
  · cases hReturning

/- The watchdog rotates while the process of the first node is alive. -/
theorem rotation_loses_process : ¬ ∀ s, Run.Reaches step OneAtATime launchState s → Owned s := by
  intro hAll
  let events : List Move :=
    .start plainCall :: replicate 22 (.run 0) ++
      .rotate secondCall :: replicate 22 (.run 1)
  have hTaken : Run.Taken step OneAtATime launchState events := by decide +kernel
  rcases Run.exists_reaches step OneAtATime launchState (fun s : State =>
        s.threads[1]?.any returning &&
          decide (s.shared.activeNode = some (sampleNode .vless "192.0.2.2") ∧
            s.shared.processes[1]? = some (Process.mk .xray
              (.tunnel sampleWinner 1824 none) true) ∧
            (s.shared.engines .xray).listenPort = 1824))
      events hTaken (by decide +kernel) with
    ⟨s, hRun, hEnd⟩
  rw [and_eq_true] at hEnd
  rcases Option.any_eq_true _ _ |>.mp hEnd.1 with ⟨thread, hThread, hReturning⟩
  rcases exists_of_returning hReturning with ⟨next, rfl⟩
  rcases of_decide_eq_true hEnd.2 with ⟨hNode, hProcess, hPort⟩
  rcases (hAll s hRun).1 1 next hThread _ (mem_of_getElem? hProcess) rfl
    (by rw [hPort]; decide) with
    ⟨node, split, hActive, hConfig⟩
  rw [hNode] at hActive
  cases hActive
  have hSame := (Config.tunnel.inj hConfig).1
  revert hSame
  decide

end Kourosh.Shard.Ownership
