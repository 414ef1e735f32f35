import Kourosh.Lib.Run
import Kourosh.Lib.Walk
import Kourosh.RemotePolicy.Remote

/-
  The preferred exit country of the VPN service.

  A session on GOOL for which a country is preferred starts with a forced peer: the endpoint that
  an earlier session has banked, or a seed of the remote policy.
-/

-- Configurations

namespace Kourosh.ExitCountry

open RemotePolicy (Text ExitEndpoint exitEndpointsFor)

def aiCountries : List Text := ["GB", "US", "IT"].map String.toList

def gool : Text := "GOOL".toList

def exitRotationBudget : Nat := 3

structure Config where
  -- without white space around it, in upper case
  protocol : Text
  -- the text holds the marker of a chain
  chained : Bool
  -- the text holds the key `forced_peer`
  forcedPeer : Option Text
deriving DecidableEq

structure Pin where
  endpoint : Text
  protocol : Text
  country : Text
deriving DecidableEq

structure Settings where
  -- without white space around it, in upper case
  exitCountry : Option Text
  exitEndpoints : List ExitEndpoint
  autoReconnect : Bool
  killSwitch : Bool
  proxyOnly : Bool

namespace Settings

def wantedCountry (settings : Settings) : Option Text :=
  settings.exitCountry.filter fun country => country != "auto".toList && country.length == 2

def seedsFor (settings : Settings) (protocol : Text) : List ExitEndpoint :=
  exitEndpointsFor settings.exitEndpoints aiCountries protocol

def seeds (settings : Settings) : List Text := (settings.seedsFor gool).map ExitEndpoint.endpoint

def budget (settings : Settings) : Nat := max settings.seeds.length exitRotationBudget

end Settings

-- The Service

inductive Retry where
  -- the one stored when it was scheduled
  | captured (config : Config)
  -- the one stored when it runs
  | stored
deriving DecidableEq

structure Service where
  connected : Bool
  stopRequested : Bool
  userInitiatedStop : Bool
  reconnectRequested : Bool
  proxyMode : Bool
  psiphonVpnMode : Bool
  sessionGeneration : Nat
  currentProtocol : Text
  storedConfig : Option Config
  unpinnedStoredConfig : Option Config
  sessionExitCountry : Option Text
  exitCountryEvaluated : Bool
  exitRotationsLeft : Nat
  exitRotationPending : Bool
  startedWithExitPin : Bool
  exitSeedHistory : List Text
  pinFile : Option Pin
  -- sessions whose exit is being located, and their country
  lookups : List (Nat × Text)
  rotationTimers : Nat
  -- configs of the quick reconnects that wait to restart
  restarts : List Config
  reconnectTask : Option Retry
  -- what the chase of the last user connect has done
  forced : List Text
  rotations : Nat
deriving DecidableEq

def fresh (pinFile : Option Pin) : Service where
  connected := false
  stopRequested := false
  userInitiatedStop := false
  reconnectRequested := false
  proxyMode := false
  psiphonVpnMode := false
  sessionGeneration := 0
  currentProtocol := "Tunnel".toList
  storedConfig := none
  unpinnedStoredConfig := none
  sessionExitCountry := none
  exitCountryEvaluated := false
  exitRotationsLeft := 0
  exitRotationPending := false
  startedWithExitPin := false
  exitSeedHistory := []
  pinFile := pinFile
  lookups := []
  rotationTimers := 0
  restarts := []
  reconnectTask := none
  forced := []
  rotations := 0

def Service.names (s : Service) (word : String) : Bool :=
  decide (word.toList <:+: s.currentProtocol)

-- The Pin

def isBlank (text : Text) : Bool := text.all Jvm.isWhitespace

variable (settings : Settings) (config : Config) (s : Service)

def exitPin : Option Text :=
  match s.pinFile with
  | none => none
  | some pin =>
    if pin.protocol = s.currentProtocol then
      if isBlank pin.endpoint then none
      else some pin.endpoint
    else none

def saveExitPin (endpoint : Text) (s : Service) : Service :=
  if isBlank endpoint then s
  else
    { s with
      pinFile := some
        { endpoint, protocol := s.currentProtocol, country := s.sessionExitCountry.getD [] } }

def dropExitPin : Service :=
  if s.startedWithExitPin then
    { s with
      pinFile := none, startedWithExitPin := false,
      storedConfig := s.unpinnedStoredConfig.or s.storedConfig }
  else s

-- Teardown

def stopTunnel : Service :=
  if s.psiphonVpnMode || s.proxyMode then
    { s with
      stopRequested := true, psiphonVpnMode := false, proxyMode := false, connected := false }
  else if s.names "SHARD" || s.names "TOR" then { s with stopRequested := true, connected := false }
  else { s with stopRequested := true }

def willAutoReconnect : Bool :=
  settings.autoReconnect && !s.userInitiatedStop && s.storedConfig.isSome

def scheduleAutoReconnect : Service :=
  if s.userInitiatedStop then s
  else
    match s.storedConfig with
    | none => s
    | some config => { s with reconnectTask := some (.captured config) }

def failAndStop : Service :=
  let s := stopTunnel { s with connected := false }
  if s.reconnectRequested then { s with reconnectRequested := false }
  else if willAutoReconnect settings s then scheduleAutoReconnect s else s

def requestQuickReconnect : Service :=
  match s.storedConfig with
  | none => s
  | some config =>
    let s := stopTunnel { s with reconnectRequested := true }
    { s with restarts := s.restarts ++ [config] }

def onTunnelLost : Service :=
  if s.reconnectRequested then s
  else if settings.autoReconnect then
    let native := !s.proxyMode && !s.psiphonVpnMode &&
      (s.names "MASQUE" || s.names "WIREGUARD" || s.names "GOOL")
    scheduleAutoReconnect <| stopTunnel { s with reconnectRequested := native, connected := false }
  else stopTunnel { s with connected := false }

-- Starting A Session

def latchCountry : Service :=
  { s with
    sessionExitCountry := if s.currentProtocol = gool then settings.wantedCountry else none,
    exitCountryEvaluated := false }

def mayForce : Bool :=
  s.sessionExitCountry.isSome && !config.chained && config.forcedPeer.isNone

def nextSeed : Option Text :=
  Walk.next ((settings.seedsFor s.currentProtocol).map ExitEndpoint.endpoint) s.exitSeedHistory

def choosePeer : Option Text × Service :=
  if mayForce config s then
    match exitPin s with
    | some endpoint => (some endpoint, s)
    | none =>
      match nextSeed settings s with
      | none => (none, s)
      | some seed =>
        (some seed,
          { s with exitSeedHistory := s.exitSeedHistory ++ [seed], forced := s.forced ++ [seed] })
  else (none, s)

def storeConfig (config : Config) (peer : Option Text) (s : Service) : Service :=
  match peer with
  | none =>
    { s with
      startedWithExitPin := false, storedConfig := some config, unpinnedStoredConfig := none }
  | some endpoint =>
    { s with
      startedWithExitPin := true
      storedConfig := some { config with forcedPeer := some endpoint }
      unpinnedStoredConfig := some config }

def settleBudget : Service :=
  if s.exitRotationPending then
    { s with
      exitRotationPending := false,
      exitRotationsLeft := if s.sessionExitCountry.isSome then s.exitRotationsLeft else 0 }
  else
    { s with
      exitSeedHistory := []
      exitRotationsLeft :=
        if s.sessionExitCountry.isSome then
          max (settings.seedsFor s.currentProtocol).length exitRotationBudget
        else 0 }

def openTransport : Service :=
  let s :=
    { s with stopRequested := false, proxyMode := settings.proxyOnly, psiphonVpnMode := false }
  if s.proxyMode && (s.names "TOR" || s.names "SHARD") then failAndStop settings s
  else if s.names "PSIPHON-OVER-WARP" then { s with psiphonVpnMode := !s.proxyMode }
  else if s.names "SHARD" || s.names "TOR" then s
  else if s.names "PSIPHON" then { s with psiphonVpnMode := !s.proxyMode }
  else s

def startSession : Service :=
  let chosen := choosePeer settings config (latchCountry settings
    { s with currentProtocol := config.protocol })
  openTransport settings (settleBudget settings (storeConfig config chosen.1 chosen.2))

def startTunnel (settings : Settings) (config : Option Config) (s : Service) : Service :=
  if s.connected then s
  else
    let s :=
      { s with
        connected := true, sessionGeneration := s.sessionGeneration + 1, reconnectTask := none }
    match config with
    | none => failAndStop settings s
    | some config =>
      if config.protocol.isEmpty then failAndStop settings { s with currentProtocol := [] }
      else startSession settings config s

-- Verdicts

def isWarpTransport (protocol : Text) : Bool :=
  (["MASQUE", "WIREGUARD", "GOOL", "MIM"].map String.toList).contains protocol

def evaluateExitCountry : Service :=
  match s.sessionExitCountry with
  | none => s
  | some wanted =>
    if s.exitCountryEvaluated || s.proxyMode || s.psiphonVpnMode ||
      !isWarpTransport s.currentProtocol then s
    else
      { s with
        exitCountryEvaluated := true, lookups := s.lookups ++ [(s.sessionGeneration, wanted)] }

def rotate : Service :=
  match s.exitRotationsLeft with
  | 0 => s
  | left + 1 =>
    let s := dropExitPin { s with exitRotationsLeft := left, rotations := s.rotations + 1 }
    { s with exitRotationPending := true, rotationTimers := s.rotationTimers + 1 }

local instance lawfulCountry : LawfulBEq (List Char) := inferInstance

/- The answer to a lookup, for the endpoint that the core has connected to. -/
def answer (generation : Nat)
  (wanted : Text) (actual : Option Text) (endpoint : Text) (s : Service) : Service :=
  if generation = s.sessionGeneration then
    match actual with
    | none => s
    | some actual =>
      if actual = wanted ∨ (s.sessionExitCountry.isSome ∧ actual ∈ aiCountries) then
        saveExitPin (if s.startedWithExitPin then (exitPin s).getD endpoint
          else endpoint) s
      else rotate s
  else s

-- Events

inductive Ending where
  | clean
  | failed
  -- the setup has thrown
  | rejected
deriving DecidableEq

inductive Event where
  -- `ACTION_CONNECT`; no config, if it does not parse
  | connect (config : Option Config)
  | disconnect
  | revoke
  -- `ACTION_RECONNECT`, of the notification
  | reconnect
  -- a core or Psiphon reports that it is connected
  | ready
  | exitIp
  | answer (actual : Option Text) (endpoint : Text)
  | rotationDue
  -- the core may still be shutting down
  | restartDue (running : Bool)
  | reconnectDue
  | available
  | lost
  -- `failAndStop`, from a callback or a timer
  | failed
  -- a newer session may own the service by then
  | coreEnded (ending : Ending) (superseded : Bool)
  | destroyed

def coreEnded (settings : Settings) (ending : Ending) (superseded : Bool) (s : Service) : Service :=
  let unexpected := decide (ending ≠ .rejected) && !s.stopRequested
  let dropped :=
    match ending with
    | .clean => s
    | .failed => if s.stopRequested then s else dropExitPin s
    | .rejected => dropExitPin s
  let s := { dropped with connected := false }
  if superseded then s
  else if s.reconnectRequested then { s with reconnectRequested := false }
  else if settings.killSwitch && !s.proxyMode && !s.stopRequested then s
  else if unexpected && willAutoReconnect settings s then scheduleAutoReconnect s
  else s

def disconnect : Service := stopTunnel
  { s with userInitiatedStop := true, reconnectRequested := false, reconnectTask := none }

def rotationDue : Service :=
  if s.userInitiatedStop || !s.connected then { s with exitRotationPending := false }
  else requestQuickReconnect s

def counted (s : Service) : Event → Service
| .connect _ =>
  if s.connected then s
  else { s with forced := [], rotations := 0 }
| _ => s

structure Reaction where
  service : Service
  start : Option (Option Config)

def Reaction.quiet (s : Service) : Reaction := ⟨s, none⟩

def restartDue (running : Bool) (s : Service) : Option Reaction :=
  match s.restarts with
  | [] => none
  | config :: rest =>
    let s := { s with restarts := rest }
    if running || s.connected || s.userInitiatedStop then
      some (.quiet { s with reconnectRequested := false })
    else some ⟨s, some (some config)⟩

def reconnectDue : Option Reaction :=
  match s.reconnectTask with
  | none => none
  | some retry =>
    let s := { s with reconnectTask := none }
    if s.userInitiatedStop || s.connected then some (.quiet s)
    else
      match retry with
      | .captured config => some ⟨s, some (some config)⟩
      | .stored => some ⟨s, s.storedConfig.map some⟩

def react (settings : Settings) (s : Service) : Event → Option Reaction
| .connect config =>
  some ⟨{ counted s (.connect config) with userInitiatedStop := false }, some config⟩
| .disconnect => some (.quiet (disconnect { s with exitRotationPending := false }))
| .revoke => some (.quiet (disconnect s))
| .reconnect => some (.quiet (if s.connected then requestQuickReconnect s else s))
| .ready =>
  some (.quiet (if s.proxyMode || s.psiphonVpnMode then
    { s with connected := true }
    else s))
| .exitIp => some (.quiet (evaluateExitCountry s))
| .answer actual endpoint =>
  match s.lookups with
  | [] => none
  | (generation, wanted) :: rest =>
    some (.quiet (answer generation wanted actual endpoint { s with lookups := rest }))
| .rotationDue =>
  match s.rotationTimers with
  | 0 => none
  | timers + 1 => some (.quiet (rotationDue { s with rotationTimers := timers }))
| .restartDue running => restartDue running s
| .reconnectDue => reconnectDue s
| .available =>
  some (.quiet (if willAutoReconnect settings s && !s.connected then
    { s with reconnectTask := some .stored }
    else s))
| .lost =>
  some (.quiet (if s.stopRequested || s.userInitiatedStop || !s.connected then s
    else onTunnelLost settings s))
| .failed => some (.quiet (failAndStop settings s))
| .coreEnded ending superseded => some (.quiet (coreEnded settings ending superseded s))
| .destroyed => some (.quiet { fresh s.pinFile with forced := s.forced, rotations := s.rotations })

def step (settings : Settings) (s : Service) (event : Event) : Option Service :=
  (react settings s event).map fun reaction =>
    match reaction.start with
    | none => reaction.service
    | some config => startTunnel settings config reaction.service

end Kourosh.ExitCountry
