import Kourosh.Vpn.Service

/-
  Sessions of the VPN service that follow one another.
-/

-- Statements

namespace Kourosh.Supersession

open Vpn (Transport Thread Flag Service)

inductive Place where
  | on (thread : Thread)
  -- scheduled, and not yet due
  | timer
deriving DecidableEq

instance : Fintype Place where
  elems :=
    {.on .worker, .on .scheduler, .on .callback, .on .outer, .on .main, .timer}
  complete := by
    intro place
    rcases place with (_ | _) | _ <;> decide

inductive Statement where
  -- with the session whose finally block it is part of
  | plain (owner : Option Nat) (act : Vpn.Act)
  -- the protocol of a config that has been parsed
  | use (transport : Transport)
deriving DecidableEq

namespace Statement

def exec : Statement → Service → Nat × Service
| .plain _ act, s => act.exec s
| .use transport, s => (0, { s with transport })

def erase : Statement → Option Vpn.Act
| .plain _ act => some act
| .use _ => none

end Statement

abbrev Program := Job Place Statement

abbrev State := Threads Place Statement Service

def lift (owner : Option Nat) : Vpn.Program → Program :=
  Job.translate .on fun act => some (.plain owner act)

def ask (act : Vpn.Act) (next : Bool → Program) : Program :=
  .act (.plain none act) fun value => next (value == 1)

def get (flag : Flag) (next : Bool → Program) : Program := ask (.read flag) next

def perform (act : Vpn.Act) (next : Program) : Program := .act (.plain none act) fun _ => next

def set (flag : Flag) (value : Bool) (next : Program) : Program := perform (.write flag value) next

-- Sessions

def nativeFinally (generation : Nat) : Program :=
  lift (some generation) (Vpn.nativeFinally generation)

def nativeCore (generation : Nat) : Program :=
  .wait <| get .stopRequested fun stopped =>
    set .nativeExitWasUnexpected (!stopped) (nativeFinally generation)

def nativeJob (generation : Nat) : Program :=
  .call fun prepared =>
    if prepared then perform .establish <| set .watchdogTask true (nativeCore generation)
    else set .nativeExitWasUnexpected false (nativeFinally generation)

def startTransport (generation : Nat) : Program :=
  ask (.over .chain) fun chain =>
    if chain then lift none Vpn.startChainTunnel
    else
      ask (.over .shard) fun shard =>
        if shard then lift none Vpn.startShardTunnel
        else
          ask (.over .tor) fun tor =>
            if tor then lift none Vpn.startTorTunnel
            else
              ask (.over .psiphon) fun psiphon =>
                if psiphon then
                  set .psiphonVpnMode true <| set .psiphonVpnActivated false <|
                    .fork (.on .worker) (lift none Vpn.psiphonJob) .done
                else .fork (.on .worker) (nativeJob generation) .done

def use (config : Option Transport) (next : Program) : Program :=
  match config with
  | none => next
  | some transport => .act (.use transport) fun _ => next

def startTunnel (config : Option Transport) : Program :=
  ask (.claim .connected) fun claimed =>
    if claimed then
      .act (.plain none .newGeneration) fun generation =>
        set .reconnectTask false <| set .nativeExitWasUnexpected false <| .call fun parsed =>
          if parsed then
            use config <| set .stopRequested false <|
              set .psiphonVpnMode false <| startTransport generation
          else set .connected false <| lift none (Vpn.failAndStop false)
    else .done

def reconnect : Program := get .userInitiatedStop fun stopped =>
  if stopped then .done
  else get .connected fun up => if up then .done else startTunnel none

-- Quick Reconnects

def quickRestart : Program :=
  .wait <|
    -- `NativeCore.isRunning`
    .call fun running =>
      if running then set .reconnectRequested false .done
      else
        get .connected fun up =>
          if up then set .reconnectRequested false .done
          else
            get .userInitiatedStop fun stopped =>
              if stopped then set .reconnectRequested false .done
              else startTunnel none

def requestQuickReconnect : Program := set .reconnectRequested true <|
  (lift none (Vpn.stopTunnel false .done)).andThen (.fork .timer quickRestart .done)

def reconnectAction : Program := get .connected fun up =>
  if up then requestQuickReconnect else .done

def rotationDue : Program := get .userInitiatedStop fun stopped =>
  if stopped then .done
  else get .connected fun up => if up then requestQuickReconnect else .done

def connectAction (transport : Transport) : Program :=
  set .userInitiatedStop false <| set .killSwitchSealed false <| startTunnel (some transport)

-- The System

inductive Entry where
  | service (entry : Vpn.Entry)
  | connect (transport : Transport)
  | reconnect
  | rotation

namespace Entry

def thread : Entry → Thread
| .service entry => entry.thread
| .connect _ => .main
| .reconnect => .main
| .rotation => .scheduler

def program : Entry → Program
| .service .reconnect => Supersession.reconnect
| .service entry => lift none entry.program
| .connect transport => connectAction transport
| .reconnect => reconnectAction
| .rotation => rotationDue

def enabled (entry : Entry) (s : Service) : Bool :=
  match entry with
  | .service entry => entry.enabled s
  | _ => true

def arrive (entry : Entry) (s : Service) : Service :=
  match entry with
  | .service entry => entry.arrive s
  | _ => s

end Entry

inductive Move where
  | run (thread : Thread) (ok : Bool)
  | enter (entry : Entry)
  -- the first restart that was scheduled
  | due

def step (s : State) : Move → Option State
| .run thread ok => s.run Statement.exec (.on thread) ok
| .enter entry =>
  if entry.enabled s.shared then
    some (Threads.enqueue { s with shared := entry.arrive s.shared }
      (.on entry.thread) entry.program)
  else none
| .due =>
  match s.queues .timer with
  | [] => none
  | job :: rest => some ((s.resume .timer rest).enqueue (.on .scheduler) job)

def fresh (transport : Transport) (killSwitch autoReconnect : Bool) : State where
  shared :=
    { transport
      flags := fun flag =>
        match flag with
        | .killSwitch => killSwitch
        | .autoReconnect => autoReconnect
        | _ => false
      tun := none
      sessionGeneration := 0
      psiphonGeneration := 0
      alive := true
      owed := false }
  queues := fun _ => []

-- Without Marks

def Place.thread : Place → Thread
| .on thread => thread
| .timer => .scheduler

def erase : Program → Vpn.Program := Job.translate Place.thread Statement.erase

@[simp]
lemma erase_nodes :
  (∀ act next, erase (ask act next) = Vpn.ask act fun value => erase (next value)) ∧
  (∀ flag next, erase (get flag next) = Vpn.get flag fun value => erase (next value)) ∧
  (∀ act next, erase (perform act next) = Vpn.perform act (erase next)) ∧
  (∀ flag value next, erase (set flag value next) = Vpn.set flag value (erase next)) ∧
  (∀ next, erase (.call next) = .call fun ok => erase (next ok)) ∧
  (∀ next, erase (.wait next) = .wait (erase next)) ∧
  (∀ place job next, erase (.fork place job next) = .fork place.thread (erase job) (erase next)) ∧
  erase .done = .done := by
  refine ⟨?_, ?_, ?_, ?_, ?_, ?_, ?_, rfl⟩
  all_goals intros; rfl

@[simp]
lemma erase_use (config : Option Transport) (next : Program) :
  erase (use config next) = erase next := by
  cases config with
  | none | some => rfl

@[simp]
lemma erase_lift (owner : Option Nat) (program : Vpn.Program) :
  erase (lift owner program) = program := by
  induction program with
  | done => rfl
  | act act _ ih => exact congrArg (Job.act act) (funext ih)
  | call _ ih => exact congrArg Job.call (funext ih)
  | wait _ ih => exact congrArg Job.wait ih
  | fork thread _ _ ihJob ihNext => exact congrArg₂ (Job.fork thread) ihJob ihNext

@[simp]
lemma erase_nativeJob
  (generation : Nat) : erase (nativeJob generation) = Vpn.nativeJob generation := by
  simp [nativeJob, nativeCore, nativeFinally, Vpn.nativeJob, Vpn.nativeCore, apply_ite erase]

@[simp]
lemma erase_startTransport (generation : Nat) :
  erase (startTransport generation) = Vpn.startTransport generation := by
  simp [startTransport, Vpn.startTransport, apply_ite erase, Place.thread]

/- A start of the service, whatever its config. -/
@[simp]
lemma erase_startTunnel (config : Option Transport) :
  erase (startTunnel config) = Vpn.startTunnel := by
  have hAct : ∀ next : Nat → Program, erase (.act (.plain none .newGeneration) next) =
    .act .newGeneration fun v => erase (next v) :=
    fun _ => rfl
  simp [startTunnel, Vpn.startTunnel, apply_ite erase, hAct]

/- The entries of the service run its own programs. -/
lemma erase_program (entry : Vpn.Entry) : erase (Entry.service entry).program = entry.program := by
  cases entry with
  | reconnect =>
    simp [Entry.program, Vpn.Entry.program, Supersession.reconnect, Vpn.reconnect, apply_ite erase]
  | _ => exact erase_lift none _

end Kourosh.Supersession
