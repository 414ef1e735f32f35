import Kourosh.Lib.Run
import Kourosh.Lib.Threads
import Mathlib.Data.Finset.Insert

/-
  The VPN service, around a lost tunnel.

  The service's methods are jobs of threads: each access to a field that is shared is a statement
  of its own.
-/

-- The Service

namespace Kourosh.Vpn

inductive Transport where
  -- MASQUE, WireGuard or WoW
  | native
  | psiphon
  -- Psiphon over WARP
  | chain
  | shard
  | tor
deriving DecidableEq

inductive Interface where
  | session
  | blocking
deriving DecidableEq

inductive Flag where
  | connected
  | stopRequested
  | reconnectRequested
  | userInitiatedStop
  | killSwitchSealed
  | psiphonVpnMode
  | psiphonVpnActivated
  | nativeExitWasUnexpected
  | tun2socksRunning
  | watchdogTask
  | reconnectTask
  | killSwitch
  | autoReconnect
deriving DecidableEq

structure Service where
  transport : Transport
  flags : Flag → Bool
  -- a handle that was closed is no handle
  tun : Option Interface
  sessionGeneration : Nat
  psiphonGeneration : Nat
  -- until `stopSelf`
  alive : Bool
  -- a drop has put up a blocking TUN, and neither a session
  -- has connected since nor the user has released it
  owed : Bool

-- Statements

inductive Act where
  | read (flag : Flag)
  | write (flag : Flag) (value : Bool)
  -- `compareAndSet(true, false)`
  | take (flag : Flag)
  -- `compareAndSet(false, true)`
  | claim (flag : Flag)
  | over (transport : Transport)
  | tunMissing
  | newGeneration
  | newerThan (generation : Nat)
  | stampPsiphon
  | psiphonStale
  | closeTun
  | establish
  -- the blocking TUN, for a drop or in place of another
  | block (drop : Bool)
  | stopSelf
  -- the status CONNECTED
  | report
  | userStop
  | switchOff
deriving DecidableEq

namespace Act

def put (flag : Flag) (value : Bool) (s : Service) : Service :=
  { s with flags := Function.update s.flags flag value }

def exec : Act → Service → Nat × Service
| .read flag, s => ((s.flags flag).toNat, s)
| .write flag value, s => (0, put flag value s)
| .take flag, s => ((s.flags flag).toNat, put flag false s)
| .claim flag, s => ((!s.flags flag).toNat, put flag true s)
| .over transport, s => ((decide (s.transport = transport)).toNat, s)
| .tunMissing, s => (s.tun.isNone.toNat, s)
| .newGeneration, s =>
  (s.sessionGeneration + 1, { s with sessionGeneration := s.sessionGeneration + 1 })
| .newerThan generation, s => ((decide (s.sessionGeneration ≠ generation)).toNat, s)
| .stampPsiphon, s => (0, { s with psiphonGeneration := s.sessionGeneration })
| .psiphonStale, s => ((decide (s.psiphonGeneration ≠ s.sessionGeneration)).toNat, s)
| .closeTun, s => (0, { s with tun := none })
| .establish, s => (0, { s with tun := some .session })
| .block drop, s => (0, { s with tun := some .blocking, owed := s.owed || drop })
| .stopSelf, s => (0, { s with alive := false })
| .report, s => (0, { put .reconnectRequested false s with owed := false })
| .userStop, s => (0, { put .userInitiatedStop true s with owed := false })
| .switchOff, s => (0, { put .killSwitch false s with owed := false })

end Act

inductive Thread where
  | worker
  | scheduler
  | callback
  | outer
  | main
deriving DecidableEq

instance : Fintype Thread where
  elems := {.worker, .scheduler, .callback, .outer, .main}
  complete := by
    intro thread
    cases thread <;> decide

abbrev Program := Job Thread Act

abbrev State := Threads Thread Act Service

def ask (act : Act) (next : Bool → Program) : Program := .act act fun value => next (value == 1)

def get (flag : Flag) (next : Bool → Program) : Program := ask (.read flag) next

def perform (act : Act) (next : Program) : Program := .act act fun _ => next

def set (flag : Flag) (value : Bool) (next : Program) : Program := perform (.write flag value) next

-- Teardown

def killSwitchArmed (next : Bool → Program) : Program := get .killSwitch next

def willAutoReconnect (next : Bool → Program) : Program :=
  get .autoReconnect fun enabled =>
    if enabled then get .userInitiatedStop fun stopped => next (!stopped)
    else next false

def endSession (teardownService : Bool) (next : Program) : Program :=
  perform .closeTun <| set .connected false <|
    if teardownService then perform .stopSelf next else next

def stopTunnel (teardownService : Bool) (next : Program) : Program :=
  set .stopRequested true <| set .watchdogTask false <|
    set .tun2socksRunning false <| get .psiphonVpnMode fun psiphon =>
      if psiphon then
        set .psiphonVpnMode false <| set .psiphonVpnActivated false <|
          endSession teardownService next
      else
        ask (.over .shard) fun shard =>
          if shard then endSession teardownService next
          else
            ask (.over .tor) fun tor =>
              if tor then endSession teardownService next
              else next

def rebuildKillSwitchVpn (drop : Bool) (next : Program) : Program :=
  perform .closeTun <| perform (.block drop) next

def sealWithKillSwitch (armed : Bool) (next : Bool → Program) : Program :=
  if armed then set .killSwitchSealed true <| rebuildKillSwitchVpn true (next true)
  else next false

def scheduleAutoReconnect : Program := get .userInitiatedStop fun stopped =>
  if stopped then .done else set .reconnectTask true .done

-- Failures And Drops

def scheduleIfWanted (otherwise : Program) : Program :=
  willAutoReconnect fun will => if will then scheduleAutoReconnect else otherwise

/- `sealOnDrop && killSwitchArmed() && isRunning`. -/
def armedOnDrop (sealOnDrop : Bool) (next : Bool → Program) : Program :=
  if sealOnDrop then
    killSwitchArmed fun armed => if armed then get .tun2socksRunning next else next false
  else next false

def keepSeal (next : Bool → Program) : Program :=
  get .killSwitchSealed fun sealed =>
    if sealed then
      get .userInitiatedStop fun stopped => if stopped then next false else killSwitchArmed next
    else next false

def afterFailure (armed keep : Bool) : Program :=
  ask (.take .reconnectRequested) fun pending =>
    if pending then .done
    else
      sealWithKillSwitch armed fun sealed =>
        if sealed then scheduleIfWanted .done
        else if keep then rebuildKillSwitchVpn false (scheduleIfWanted .done)
        else scheduleIfWanted (perform .stopSelf .done)

def failAndStop (sealOnDrop : Bool) : Program :=
  armedOnDrop sealOnDrop fun armed =>
    keepSeal fun keep =>
      set .connected false <| stopTunnel (!(armed || keep)) (afterFailure armed keep)

def onTunnelLost : Program := get .reconnectRequested fun pending =>
  if pending then .done
  else
    killSwitchArmed fun armed =>
      ask (.over .native) fun native =>
        get .autoReconnect fun auto =>
          if auto then
            let teardown := set .watchdogTask false <| set .connected false <| stopTunnel false <|
              sealWithKillSwitch armed fun _ => scheduleAutoReconnect
            if native then set .reconnectRequested true teardown else teardown
          else
            set .connected false <| stopTunnel true <| sealWithKillSwitch armed fun sealed =>
              if sealed then .done
              else perform .stopSelf .done

def watchdogTick : Program := get .stopRequested fun stopped =>
  if stopped then .done
  else
    get .userInitiatedStop fun left =>
      if left then .done
      else
        get .connected fun up =>
          if up then
            .call fun healthy =>
              if healthy then .done
              else
                ask (.over .shard) fun shard =>
                  if shard then
                    -- `rotateShardNode`
                    .call fun rotated => if rotated then .done else onTunnelLost
                  else onTunnelLost
          else .done

-- Sessions

def nativeUnsealed : Program := get .nativeExitWasUnexpected fun dropped =>
  if dropped then
    willAutoReconnect fun will =>
      set .nativeExitWasUnexpected false <| if will then scheduleAutoReconnect
        else perform .stopSelf .done
  else set .nativeExitWasUnexpected false <| perform .stopSelf .done

def nativeFinally (generation : Nat) : Program := killSwitchArmed fun armed =>
  perform .closeTun <| set .connected false <| ask (.newerThan generation) fun newer =>
    if newer then .done
    else
      ask (.take .reconnectRequested) fun pending =>
        if pending then .done
        else if armed then
          get .stopRequested fun stopped =>
            if stopped then nativeUnsealed
            else sealWithKillSwitch armed fun _ => .done
        else nativeUnsealed

def nativeCore (generation : Nat) : Program :=
  .wait <| get .stopRequested fun stopped =>
    set .nativeExitWasUnexpected (!stopped) (nativeFinally generation)

def nativeJob (generation : Nat) : Program :=
  .call fun prepared =>
    if prepared then perform .establish <| set .watchdogTask true (nativeCore generation)
    else set .nativeExitWasUnexpected false (nativeFinally generation)

def startPsiphonTunnel : Program := perform .stampPsiphon <|
  .call fun started => if started then .done else failAndStop false

def psiphonJob : Program :=
  .call fun ready =>
    if ready then perform .establish startPsiphonTunnel
    else
      set .connected false <| ask (.take .reconnectRequested) fun pending =>
        if pending then .done else perform .stopSelf .done

def chainJob : Program :=
  .call fun ready =>
    if ready then
      perform .establish <|
        -- `raiseOuterLeg`
        .call fun raised =>
          if raised then startPsiphonTunnel
          else failAndStop false
    else failAndStop false

def routedJob : Program :=
  .call fun ready =>
    if ready then
      perform .establish <| .call fun up =>
        if up then
          set .tun2socksRunning true <| perform .report <| set .watchdogTask true .done
        else failAndStop false
    else failAndStop false

def startShardTunnel : Program := .fork .worker routedJob .done

def startTorTunnel : Program := .fork .worker routedJob .done

def startChainTunnel : Program := set .psiphonVpnMode true <| set .psiphonVpnActivated false <|
  .fork .worker chainJob .done

/- `startTunnel`, behind the parsed config. -/
def startTransport (generation : Nat) : Program :=
  ask (.over .chain) fun chain =>
    if chain then startChainTunnel
    else
      ask (.over .shard) fun shard =>
        if shard then startShardTunnel
        else
          ask (.over .tor) fun tor =>
            if tor then startTorTunnel
            else
              ask (.over .psiphon) fun psiphon =>
                if psiphon then
                  set .psiphonVpnMode true <| set .psiphonVpnActivated false <|
                    .fork .worker psiphonJob .done
                else .fork .worker (nativeJob generation) .done

def startTunnel : Program := ask (.claim .connected) fun claimed =>
  if claimed then
    .act .newGeneration fun generation =>
      set .reconnectTask false <| set .nativeExitWasUnexpected false <| .call fun parsed =>
        if parsed then
          set .stopRequested false <| set .psiphonVpnMode false <| startTransport generation
        else set .connected false (failAndStop false)
  else .done

def reconnect : Program := get .userInitiatedStop fun stopped =>
  if stopped then .done
  else get .connected fun up => if up then .done else startTunnel

-- Callbacks

def onConnected : Program := ask .psiphonStale fun stale =>
  if stale then .done
  else
    .call fun port =>
      if port then
        get .psiphonVpnActivated fun activated =>
          get .tun2socksRunning fun routing =>
            if activated && routing then perform .report .done
            else
              ask .tunMissing fun missing =>
                if missing then failAndStop false
                else
                  .call fun routed =>
                    if routed then
                      set .tun2socksRunning true <| set .psiphonVpnActivated true <|
                        set .connected true <| perform .report <| set .watchdogTask true .done
                    else failAndStop false
      else failAndStop false

def onExiting : Program := ask .psiphonStale fun stale =>
  if stale then .done
  else
    get .stopRequested fun stopped =>
      if stopped then .done
      else
        get .userInitiatedStop fun left =>
          if left then .done
          else
            get .psiphonVpnActivated fun activated =>
              if activated then get .connected fun up => if up then onTunnelLost else .done
              else .done

def onCoreReady : Program := ask (.over .native) fun native =>
  if native then perform .report .done else .done

def onOuterLegEnded : Program := get .stopRequested fun stopped =>
  if stopped then .done else failAndStop true

def onAvailable : Program := willAutoReconnect fun will =>
  if will then get .connected fun up => if up then .done else set .reconnectTask true .done
  else .done

def disconnect : Program := perform .userStop <|
  set .reconnectRequested false <| set .killSwitchSealed false <|
    set .reconnectTask false <| set .watchdogTask false <| stopTunnel true .done

-- The System

inductive Entry where
  | watchdog
  | reconnect
  | connectivity
  | psiphonConnected
  | psiphonExiting
  | coreReady
  | outerLegEnded
  -- a failure that a callback or a timer reports
  | failed (thread : Thread)
  | disconnect
  | switchOff

namespace Entry

def thread : Entry → Thread
| .watchdog => .scheduler
| .reconnect => .scheduler
| .connectivity => .main
| .psiphonConnected => .callback
| .psiphonExiting => .callback
| .coreReady => .callback
| .outerLegEnded => .outer
| .failed thread => thread
| .disconnect => .main
| .switchOff => .main

def program : Entry → Program
| .watchdog => watchdogTick
| .reconnect => Vpn.reconnect
| .connectivity => onAvailable
| .psiphonConnected => onConnected
| .psiphonExiting => onExiting
| .coreReady => onCoreReady
| .outerLegEnded => onOuterLegEnded
| .failed _ => failAndStop false
| .disconnect => Vpn.disconnect
| .switchOff => perform .switchOff .done

def enabled (entry : Entry) (s : Service) : Bool :=
  match entry with
  | .watchdog => s.flags .watchdogTask
  | .reconnect => s.flags .reconnectTask
  | _ => true

def arrive (entry : Entry) (s : Service) : Service :=
  match entry with
  | .reconnect => Act.put .reconnectTask false s
  | _ => s

end Entry

inductive Move where
  | run (thread : Thread) (ok : Bool)
  | enter (entry : Entry)

def step (s : State) : Move → Option State
| .run thread ok => s.run Act.exec thread ok
| .enter entry =>
  if entry.enabled s.shared then
    some (Threads.enqueue { s with shared := entry.arrive s.shared } entry.thread entry.program)
  else none

def running (transport : Transport) (autoReconnect : Bool) : State where
  shared :=
    { transport
      flags := fun flag =>
        match flag with
        | .connected => true
        | .watchdogTask => true
        | .killSwitch => true
        | .autoReconnect => autoReconnect
        | .psiphonVpnMode => transport = .psiphon ∨ transport = .chain
        | .psiphonVpnActivated => transport = .psiphon ∨ transport = .chain
        | .tun2socksRunning => transport ≠ .native
        | _ => false
      tun := some .session
      sessionGeneration := 1
      psiphonGeneration := 1
      alive := true
      owed := false }
  queues := fun thread => if thread = .worker ∧ transport = .native then [nativeCore 1] else []

end Kourosh.Vpn
