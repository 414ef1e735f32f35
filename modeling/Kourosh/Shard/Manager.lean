import Kourosh.Lib.Pool
import Kourosh.Shard.Race

/-
  The manager of the processes behind the local listener.

  `start` races slices of the pool, and then brings the tunnel up through the winner.
-/

-- Processes

namespace Kourosh.Shard

inductive Engine where
  | xray
  | anytls
deriving DecidableEq

structure Profile where
  attempt : String
  probeBudgetMs : Nat
deriving DecidableEq

inductive Config where
  | probe (ports : List Nat)
  | tunnel (node : Node) (port : Nat) (split : Option Profile)
deriving DecidableEq

def Config.ports : Config → List Nat
| .probe ports => ports
| .tunnel _ port _ => [port]

structure Process where
  engine : Engine
  config : Config
  alive : Bool
deriving DecidableEq

-- The State

/- The texts of `lastError`. -/
inductive Reason where
  -- ""
  | none
  -- "no nodes available"
  | noNodes
  -- "connect cancelled"
  | cancelled
  -- "xray binary missing", "could not start xray: …"
  | notStarted
  -- "no probe process could start"
  | noProbe
  -- "probe listener never came up"
  | probeDown
  -- "no node answered"
  | noAnswer
  -- "race failed: …"
  | raceFailed
  -- "tunnel listener never came up"
  | listenerDown
  -- "anytls tunnel failed to start"
  | sidecarFailed
deriving DecidableEq

/- The fields that `ShardManager` and `AnyTlsManager` both have, each for its own engine. -/
structure Wrapper where
  running : Bool
  -- `stopRequestedDuringStart`, and `stopRequested`
  latch : Bool
  process : Option Nat
  listenPort : Nat
  lastError : Reason

/- A call of `start` that has put its tunnel up. -/
structure Session where
  node : Node
  process : Nat
deriving DecidableEq

structure Manager where
  engines : Engine → Wrapper
  liveEngine : Option Engine
  activeNode : Option Node
  -- the profiles that were tuned in, and what is remembered:
  -- a profile, or that none works on this network
  tuned : List Profile
  remembered : Option (Option Profile)
  processes : List Process
  -- the rest is read by no program: it is the history
  -- `start` has set `running` and not yet `activeNode`
  committing : Bool
  -- the last `start` that succeeded, until another call
  session : Option Session
  -- no `stop` has begun since the call of `start` began
  undisturbed : Bool
  -- processes launched before a `stop` that has cleaned up
  cleaned : Nat
  returned : Option Bool

namespace Manager

variable (s : Manager)

def modify (engine : Engine) (change : Wrapper → Wrapper) : Manager :=
  { s with engines := Function.update s.engines engine (change (s.engines engine)) }

def isAlive (pid : Nat) : Bool := s.processes[pid]?.any Process.alive

def accepts (port : Nat) : Bool :=
  s.processes.any fun process => process.alive && process.config.ports.contains port

def isUp (engine : Engine) : Bool :=
  (s.engines engine).running && (s.engines engine).process.any s.isAlive

def isRunning : Bool :=
  match s.liveEngine with
  | some .anytls => s.isUp .anytls
  | _ => s.isUp .xray

def exit (pid : Nat) : Manager :=
  { s with processes := s.processes.modify pid fun process => { process with alive := false } }

def launch (engine : Engine) (config : Config) : Manager :=
  let taken := config.ports.any s.accepts
  { s.modify engine fun wrapper => { wrapper with process := some s.processes.length } with
    processes := s.processes ++ [⟨engine, config, !taken⟩] }

@[simp]
lemma engines_modify (s : Manager) (engine other : Engine) (change : Wrapper → Wrapper) :
  (s.modify engine change).engines other = if other = engine then change (s.engines engine)
    else s.engines other :=
  Function.update_apply s.engines engine (change (s.engines engine)) other

lemma isAlive_exit (s : Manager) (pid other : Nat) :
  (s.exit pid).isAlive other = (s.isAlive other && decide (other ≠ pid)) := by
  unfold isAlive exit
  rw [List.getElem?_modify]
  cases s.processes[other]? with
  | none => simp
  | some =>
    by_cases hSame : pid = other
    · simp [hSame]
    · simp [hSame, Ne.symm hSame]

variable {s : Manager} {pid : Nat} {config : Config}

lemma lt_of_isAlive (hAlive : s.isAlive pid) : pid < s.processes.length := by
  rcases Option.any_eq_true _ _ |>.mp hAlive with ⟨process, hGet, _⟩
  exact (List.getElem?_eq_some_iff.mp hGet).1

lemma process_launch (s : Manager) (engine : Engine) (config : Config) (other : Engine) :
  ((s.launch engine config).engines other).process = if other = engine then some s.processes.length
    else (s.engines other).process := by
  simp only [launch, engines_modify]
  split <;> rfl

lemma getElem?_launch {engine : Engine}
  {process : Process} (hGet : (s.launch engine config).processes[pid]? = some process) :
  s.processes[pid]? = some process ∨
  (pid = s.processes.length ∧ process.engine = engine ∧ process.config = config) := by
  have hLength := (List.getElem?_eq_some_iff.mp hGet).1
  simp only [launch, List.length_append, List.length_singleton] at hGet hLength
  by_cases hOld : pid < s.processes.length
  · rw [List.getElem?_append_left hOld] at hGet
    exact .inl hGet
  · have hNew : pid = s.processes.length := by omega
    subst hNew
    rw [List.getElem?_concat_length] at hGet
    cases hGet
    exact .inr ⟨rfl, rfl, rfl⟩

lemma accepts_launch (s : Manager) (engine : Engine) {port : Nat}
  (hPort : config.ports = [port]) : (s.launch engine config).accepts port := by
  cases hTaken : s.accepts port with
  | true =>
    unfold accepts at hTaken ⊢
    simp only [launch, List.any_append, hTaken, Bool.true_or]
  | false => simp_all [accepts, launch]

end Manager

-- Statements

inductive Act where
  | latch (engine : Engine) (value : Bool)
  | readLatch (engine : Engine)
  | fail (engine : Engine) (reason : Reason)
  -- `AnyTlsManager.lastError.ifBlank { … }`
  | adoptError
  | listenOn (engine : Engine) (port : Nat)
  | readPort
  -- the process is started and stored
  | launch (engine : Engine) (config : Config)
  | accepts (port : Nat)
  | setRunning (engine : Engine) (value : Bool)
  | setLive (engine : Option Engine)
  | setActive (node : Option Node)
  -- `val proc = process`
  | capture (engine : Engine)
  -- `waitFor`, and `destroyForcibly` after it
  | reap (process : Option Nat)
  -- `process = null`
  | forget (engine : Engine)
  -- the same, `if (process === proc)`
  | forgetIf (engine : Engine) (process : Option Nat)
  | tune (profile : Profile)
  | remember (profile : Option Profile)
  -- for the history
  | launched
  | cleaned (count : Nat)
  | returns (ok : Bool)

/- What is read is `0` for `null` and for `false`. -/
def Act.exec : Act → Manager → Nat × Manager
| .latch engine value, s =>
  (0, { s.modify engine ({ · with latch := value }) with undisturbed := s.undisturbed && !value })
| .readLatch engine, s => ((s.engines engine).latch.toNat, s)
| .fail engine reason, s => (0, s.modify engine ({ · with lastError := reason }))
| .adoptError, s =>
  (0, s.modify .xray fun wrapper =>
    { wrapper with
      lastError :=
        if (s.engines .anytls).lastError = .none then .sidecarFailed
        else (s.engines .anytls).lastError })
| .listenOn engine port, s => (0, s.modify engine ({ · with listenPort := port }))
| .readPort, s => ((s.engines .xray).listenPort, s)
| .launch engine config, s => (0, s.launch engine config)
| .accepts port, s => ((s.accepts port).toNat, s)
| .setRunning engine value, s =>
  (0, { s.modify engine ({ · with running := value }) with committing := s.committing || value })
| .setLive engine, s => (0, { s with liveEngine := engine })
| .setActive none, s => (0, { s with activeNode := none })
| .setActive (some node), s =>
  (0, { s with
    activeNode := some node, committing := false,
    session := some ⟨node, s.processes.length - 1⟩ })
| .capture engine, s => ((s.engines engine).process.elim 0 (· + 1), s)
| .reap none, s => (0, s)
| .reap (some pid), s => (0, s.exit pid)
| .forget engine, s => (0, s.modify engine ({ · with process := none }))
| .forgetIf engine process, s =>
  (0, s.modify engine fun wrapper =>
    if wrapper.process = process then { wrapper with process := none }
    else wrapper)
| .tune profile, s => (0, { s with tuned := s.tuned ++ [profile] })
| .remember profile, s => (0, { s with remembered := some profile })
| .launched, s => (s.processes.length, s)
| .cleaned count, s => (0, { s with cleaned := max s.cleaned count })
| .returns ok, s => (0, { s with returned := some ok })

inductive Role where
  -- in `start` or `rotate`, which hold the lock
  | starter
  | stopper
  -- `shard-stop` and `anytls-stop`
  | cleaner
deriving DecidableEq

abbrev Program := Job Role Act

def perform (act : Act) (next : Program) : Program := .act act fun _ => next

def ask (act : Act) (next : Bool → Program) : Program := .act act fun value => next (value != 0)

def decode : Nat → Option Nat
| 0 => none
| pid + 1 => some pid

def captured (engine : Engine) (next : Option Nat → Program) : Program :=
  .act (.capture engine) fun value => next (decode value)

lemma decode_capture (engine : Engine) (s : Manager) :
  decode ((Act.capture engine).exec s).1 = (s.engines engine).process := by
  simp only [Act.exec]
  cases (s.engines engine).process with
  | none | some => rfl

def finish (ok : Bool) : Program := perform (.returns ok) .done

-- Stopping

/- The thread that waits for a captured process. -/
def cleanup (engine : Engine) (process : Option Nat) (next : Program) : Program :=
  perform (.reap process) <| perform (.forgetIf engine process) <|
    perform (.setRunning engine false) next

/- `AnyTlsManager.stop` -/
def stopSidecar (next : Program) : Program :=
  perform (.latch .anytls true) <| captured .anytls fun process =>
    .fork .cleaner (cleanup .anytls process .done) next

def stop (next : Program) : Program := perform (.latch .xray true) <|
  stopSidecar <| perform (.setLive none) <| .act .launched fun count =>
    captured .xray fun process =>
      .fork .cleaner (cleanup .xray process <| perform (.setActive none) <|
        perform (.cleaned count) .done)
        next

def killProcess (next : Program) : Program :=
  perform (.setRunning .xray false) <| perform (.setActive none) <|
    captured .xray fun process => perform (.reap process) <| perform (.forget .xray) next

/- `AnyTlsManager.killProbe` -/
def killProbe (next : Program) : Program := captured .anytls fun process =>
  perform (.reap process) <| perform (.forget .anytls) next

-- A Call

inductive Attempt where
  | split (position : Nat)
  | node
  | sidecar
deriving DecidableEq

structure Call where
  port : Nat
  -- the pool, as it was expanded, ranked and diversified
  ranked : List Node
  -- for each slice
  conditions : Nat → Conditions
  interrupted : Nat → Bool
  splitEnabled : Bool
  measuredUnavailable : Bool
  geoAssets : Bool
  cached : Option Profile
  profiles : List Profile
  starts : Attempt → Bool
  -- the listener of the attempt is waited for long enough
  listens : Attempt → Bool
  -- the probe through the profile at a position succeeds
  carries : Nat → Bool

variable (call : Call)

def Call.candidates : List Profile :=
  match call.cached with
  | some profile => [profile]
  | none => call.profiles

/- `launch`, of both objects. -/
def launch (engine : Engine) (starts : Bool) (config : Config) (next : Bool → Program) : Program :=
  if starts then perform (.launch engine config) (next true)
  else perform (.fail engine .notStarted) (next false)

def awaitListener (port : Nat) (listens : Bool) (next : Bool → Program) : Program :=
  ask (.accepts port) fun accepts => next (listens && accepts)

def probePorts (basePort : Nat) (nodes : List Node) : Config :=
  .probe ((List.range nodes.length).map (basePort + ·))

def launchProbe (engine : Engine)
  (basePort : Nat) (nodes : List Node) (starts : Bool) (next : Program) : Program :=
  if nodes.isEmpty then next
  else launch engine starts (probePorts basePort nodes) fun _ => next

-- The Race

def outcome (slice : Nat) (candidates : List Node)
  (latched : Bool) : Reason × Option Node :=
  if latched || !(call.conditions slice).ready then (.probeDown, none)
  else if call.interrupted slice then (.raceFailed, none)
  else (.noAnswer, (race candidates (call.conditions slice)).winner)

def raceSlice (slice : Nat) (candidates : List Node)
  (next : Option Node → Program) : Program :=
  let conditions := call.conditions slice
  launchProbe .xray probeBasePort (xrayCandidates candidates) conditions.xrayStarts <|
    launchProbe .anytls anytlsProbeBasePort (anytlsCandidates candidates) conditions.anytlsStarts <|
      if !xrayLaunched candidates conditions && !anytlsLaunched candidates conditions then
        perform (.fail .xray .noProbe) (next none)
      else
        ask (.readLatch .xray) fun latched =>
          match outcome call slice candidates latched with
          | (_, some winner) => killProcess <| killProbe <| next (some winner)
          | (reason, none) =>
            perform (.fail .xray reason) <| killProcess <| killProbe <| next none

def cancel : Program := perform (.fail .xray .cancelled) (finish false)

def maxRaceSlices : Nat := 3

def raceSlices (call : Call) (next : Node → Program) : List Nat → Program
| [] => finish false
| slice :: rest =>
  ask (.readLatch .xray) fun latched =>
    if latched then cancel
    else
      let candidates := (call.ranked.drop (slice * raceWidth)).take raceWidth
      if candidates.isEmpty then finish false
      else
        raceSlice call slice candidates fun
          | some winner => next winner
          | none => raceSlices call next rest

-- The Tunnel

/- `AnyTlsManager.launchLive` -/
def launchLive (node : Node) (next : Bool → Program) : Program :=
  perform (.latch .anytls false) <| perform (.fail .anytls .none) <|
    ask (.readLatch .anytls) fun stopped =>
      if stopped then next false
      else
        launch .anytls (call.starts .sidecar) (.tunnel node call.port none) fun started =>
          if started then
            awaitListener call.port (call.listens .sidecar) fun up =>
              if up then
                perform (.setRunning .anytls true) <| perform (.listenOn .anytls call.port) <|
                  next true
              else
                perform (.fail .anytls .listenerDown) <| stopSidecar (next false)
          else next false

def sidecarTunnel (winner : Node) : Program :=
  launchLive call winner fun up =>
    if up then
      perform (.setLive (some .anytls)) <| perform (.setActive (some winner)) (finish true)
    else perform .adoptError (finish false)

def commit (winner : Node) : Program := perform (.setRunning .xray true) <|
  perform (.setActive (some winner)) (finish true)

def nodeOnly (winner : Node) : Program :=
  ask (.readLatch .xray) fun latched =>
    if latched then cancel
    else
      launch .xray (call.starts .node) (.tunnel winner call.port none) fun started =>
        if started then
          awaitListener call.port (call.listens .node) fun up =>
            if up then commit winner
            else perform (.fail .xray .listenerDown) <| stop (finish false)
        else finish false

def tryProfiles (call : Call) (winner : Node) (next : Program) : Nat → List Profile → Program
| _, [] => perform (.remember none) next
| position, profile :: rest =>
  ask (.readLatch .xray) fun latched =>
    if latched then next
    else
      perform (.tune profile) <| launch .xray (call.starts (.split position))
            (.tunnel winner call.port (some profile))
            fun started =>
          if started then
            awaitListener call.port (call.listens (.split position)) fun up =>
              if !up then stop <| tryProfiles call winner next (position + 1) rest
              else if call.cached.isSome then commit winner
              else if call.carries position then perform (.remember (some profile)) <| commit winner
              else stop <| tryProfiles call winner next (position + 1) rest
          else tryProfiles call winner next (position + 1) rest

def startSmartSplit (winner : Node) (next : Program) : Program :=
  if !call.splitEnabled || call.measuredUnavailable ||
    !call.geoAssets || call.candidates.isEmpty then next
  else tryProfiles call winner next 0 call.candidates

def xrayTunnel (winner : Node) : Program :=
  perform (.setLive (some .xray)) <| startSmartSplit call winner <| nodeOnly call winner

/- The part of `start` behind the race. -/
def tunnel (winner : Node) : Program :=
  ask (.readLatch .xray) fun latched =>
    if latched then cancel
    else if winner.isAnytls then sidecarTunnel call winner
    else xrayTunnel call winner

def start : Program := perform (.latch .xray false) <| perform (.fail .xray .none) <|
  perform (.listenOn .xray call.port) <| if call.ranked.isEmpty then
    perform (.fail .xray .noNodes) (finish false)
    else raceSlices call (tunnel call) (List.range maxRaceSlices)

def rotate : Program := .act .readPort fun port => start { call with port := port }

-- What Statements Do To Processes

def Manager.WellFormed (s : Manager) : Prop := ∀ engine pid,
  (s.engines engine).process = some pid → pid < s.processes.length

structure Grows (s s' : Manager) : Prop where
  length : s.processes.length ≤ s'.processes.length
  same : ∀ pid < s.processes.length, ∀ process, s'.processes[pid]? = some process →
    ∃ before, s.processes[pid]? = some before ∧ process.engine = before.engine ∧
    process.config = before.config ∧ (process.alive = true → before.alive = true)

variable {s s' : Manager} {pid : Nat}

lemma Grows.of_processes (hSame : s'.processes = s.processes) : Grows s s' where
  length := by rw [hSame]
  same := fun pid _ process hGet => ⟨process, hSame ▸ hGet, rfl, rfl, id⟩

lemma Grows.trans {a b c : Manager} (hFirst : Grows a b) (hThen : Grows b c) : Grows a c where
  length := hFirst.length.trans hThen.length
  same := by
    intro pid hOld process hGet
    rcases hThen.same pid (hOld.trans_le hFirst.length) process
      hGet with ⟨middle, hMiddle, hEngine, hConfig, hAlive⟩
    rcases hFirst.same pid hOld middle hMiddle with ⟨before, hBefore, hEngine', hConfig', hAlive'⟩
    exact ⟨before, hBefore, hEngine.trans hEngine', hConfig.trans hConfig', hAlive' ∘ hAlive⟩

section

variable (hGrows : Grows s s') (hOld : pid < s.processes.length)

include hGrows hOld

lemma Grows.isAlive (hAlive : s'.isAlive pid) : s.isAlive pid := by
  rcases Option.any_eq_true _ _ |>.mp hAlive with ⟨process, hGet, hProcess⟩
  rcases hGrows.same pid hOld process hGet with ⟨before, hBefore, _, _, hDies⟩
  rw [Manager.isAlive, hBefore]
  exact hDies hProcess

lemma Grows.dead (hDead : s.isAlive pid = false) : s'.isAlive pid = false := by
  rw [Bool.eq_false_iff] at hDead ⊢
  exact hDead ∘ hGrows.isAlive hOld

end

lemma grows_exit (s : Manager) (pid : Nat) : Grows s (s.exit pid) where
  length := by simp [Manager.exit]
  same := by
    intro other hOld process hGet
    rw [Manager.exit, List.getElem?_modify] at hGet
    rcases Option.map_eq_some_iff.mp hGet with ⟨before, hBefore, hProcess⟩
    refine ⟨before, hBefore, ?_⟩
    split at hProcess
    · rw [← hProcess]
      exact ⟨rfl, rfl, nofun⟩
    · rw [← hProcess]
      exact ⟨rfl, rfl, id⟩

lemma grows_launch (s : Manager) (engine : Engine) (config : Config) :
  Grows s (s.launch engine config) where
  length := by simp [Manager.launch]
  same := by
    intro pid hOld process hGet
    rw [Manager.launch, List.getElem?_append_left hOld] at hGet
    exact ⟨process, hGet, rfl, rfl, id⟩

lemma grows_exec (act : Act) (s : Manager) : Grows s (act.exec s).2 := by
  cases act with
  | launch engine config => exact grows_launch s engine config
  | reap process =>
    cases process with
    | none => exact .of_processes rfl
    | some pid => exact grows_exit s pid
  | setActive node => cases node <;> exact .of_processes rfl
  | _ => exact .of_processes rfl

lemma process_exec {act : Act} (hLaunch : ∀ engine config, act ≠ .launch engine config)
  (s : Manager) (engine : Engine) : ((act.exec s).2.engines engine).process =
  (s.engines engine).process ∨ ((act.exec s).2.engines engine).process = none := by
  cases act with
  | launch => exact absurd rfl (hLaunch _ _)
  | latch other | fail other | listenOn other | setRunning other =>
    cases engine <;> cases other <;> exact .inl rfl
  | adoptError => cases engine <;> exact .inl rfl
  | forget =>
    simp only [Act.exec, Manager.engines_modify]
    split
    · exact .inr rfl
    · exact .inl rfl
  | forgetIf other process =>
    simp only [Act.exec, Manager.engines_modify]
    split
    next hSame =>
      split
      · exact .inr rfl
      · exact .inl (by rw [hSame])
    · exact .inl rfl
  | reap process => cases process <;> exact .inl rfl
  | setActive node => cases node <;> exact .inl rfl
  | _ => exact .inl rfl

lemma wellFormed_launch (hWell : s.WellFormed)
  (engine : Engine) (config : Config) : (s.launch engine config).WellFormed := by
  intro other pid hField
  have hLength : (s.launch engine config).processes.length = s.processes.length + 1 := by
    simp [Manager.launch]
  rw [hLength]
  rw [Manager.process_launch] at hField
  split at hField
  · cases hField
    omega
  · have hOld := hWell other pid hField
    omega

lemma wellFormed_exec (hWell : s.WellFormed) (act : Act) : (act.exec s).2.WellFormed := by
  by_cases hLaunch : ∀ engine config, act ≠ .launch engine config
  · intro engine pid hField
    rcases process_exec hLaunch s engine with hSame | hNone
    · rw [hSame] at hField
      exact (hWell engine pid hField).trans_le (grows_exec act s).length
    · rw [hNone] at hField
      cases hField
  · push Not at hLaunch
    rcases hLaunch with ⟨engine, config, rfl⟩
    exact wellFormed_launch hWell engine config

-- Runs

abbrev State := Pool Role Act Manager

inductive Move where
  | run (thread : Nat)
  | start (call : Call)
  | rotate (call : Call)
  | stop
  | exit (pid : Nat)

def Manager.arrive (s : Manager) (starts : Bool) : Manager :=
  { s with
    committing := s.committing && !starts, session := none, undisturbed := starts,
    returned := none }

def enter (s : State) (program : Program) : Option State :=
  if s.Without .starter then
    some (Pool.spawn { s with shared := s.shared.arrive true } .starter program)
  else none

def step (s : State) : Move → Option State
| .run thread => s.run Act.exec thread true
| .start call => enter s (Shard.start call)
| .rotate call => enter s (Shard.rotate call)
| .stop =>
  some (Pool.spawn { s with shared := s.shared.arrive false } .stopper (Shard.stop .done))
| .exit pid => some { s with shared := s.shared.exit pid }

def fresh : Manager where
  engines := fun
    | .xray => ⟨false, false, none, 1824, .none⟩
    | .anytls => ⟨false, false, none, 0, .none⟩
  liveEngine := none
  activeNode := none
  tuned := []
  remembered := none
  processes := []
  committing := false
  session := none
  undisturbed := false
  cleaned := 0
  returned := none

def launchState : State := ⟨fresh, []⟩

def sampleWinner : Node := sampleNode .vless "192.0.2.1"

def sampleCall : Call where
  port := 1824
  ranked := [sampleWinner]
  conditions := fun _ => ⟨true, true, true, [(0, true)]⟩
  interrupted := fun _ => false
  splitEnabled := true
  measuredUnavailable := false
  geoAssets := true
  cached := none
  profiles := [⟨"fragA", 6000⟩, ⟨"fragB", 6000⟩]
  starts := fun _ => true
  listens := fun _ => true
  carries := fun _ => true

def plainCall : Call := { sampleCall with splitEnabled := false }

end Kourosh.Shard
