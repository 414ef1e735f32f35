import Kourosh.Lib.Run
import Kourosh.Lib.Utf8
import Kourosh.Masque.Assignment
import Kourosh.Masque.Datagram

/-
  The loop of the QUIC tunnel.

  One turn takes an arm of the `select!`, opens the CONNECT-IP request once the handshake is done,
  polls HTTP/3 for the answer, drains the DATAGRAMs and flushes.
-/

-- Polling

namespace Kourosh.Quic

open Masque

/- What `h3c.poll` returns, up to `Done`. -/
inductive H3Event where
  | headers (stream : Nat) (list : List (Bytes × Bytes))
  | data (stream : Nat) (reads : List Bytes)
  -- `Finished`, `Reset` and whatever else
  | other
  | failed (e : AetherError)

/- `b":status"`. -/
def statusName : Bytes := [0x3a, 0x73, 0x74, 0x61, 0x74, 0x75, 0x73]

/- `b"200"`. -/
def status200 : Bytes := [0x32, 0x30, 0x30]

def statusError (value : Bytes) : AetherError :=
  .other ("connect-ip status " ++ String.ofList ((utf8Decode (utf8Lossy value)).getD []))

/- The `for` loop over a header list: whether it saw a 200, and the error it returned with. -/
def readStatus : List (Bytes × Bytes) → Bool × Option AetherError
| [] => (false, none)
| (name, value) :: list =>
  if name = statusName then
    if value = status200 then (true, (readStatus list).2)
    else (false, some (statusError value))
  else readStatus list

/- What a call of `poll_h3` has done when it returns. -/
structure Polled where
  -- `connect_ip_ok`
  accepted : Bool
  error : Option AetherError
  capsules : CapsuleParser
  assigned : List AssignedAddr

def pollH3 (t : Usize) (reqStream : Nat) (capsules : CapsuleParser) : List H3Event → Polled
| [] => ⟨false, none, capsules, []⟩
| .headers stream list :: events =>
  if stream ≠ reqStream then pollH3 t reqStream capsules events
  else
    match readStatus list with
    | (seen, some e) => ⟨seen, some e, capsules, []⟩
    | (seen, none) =>
      let later := pollH3 t reqStream capsules events
      ⟨seen || later.accepted, later.error, later.capsules, later.assigned⟩
| .data stream reads :: events =>
  if stream ≠ reqStream then pollH3 t reqStream capsules events
  else
    let drained := (reads.foldl CapsuleParser.push capsules).drainCapsules t
    let later := pollH3 t reqStream drained.2 events
    ⟨later.accepted, later.error, later.capsules, drained.1 ++ later.assigned⟩
| .other :: events => pollH3 t reqStream capsules events
| .failed e :: _ => ⟨false, some e, capsules, []⟩

-- Draining Datagrams

/- What `inbound_tx.try_send` returns. -/
inductive TrySend where
  | sent
  | full
  | closed

/-
  The received DATAGRAMs with the answer of the channel to a packet of theirs: whether a packet
  was delivered, and the packets that went to the device.
-/
def drainDatagrams (streamId : Nat) : List (Bytes × TrySend) → Bool × List Bytes
| [] => (false, [])
| (datagram, answer) :: received =>
  match decodeIpDatagram datagram streamId with
  | .ok (some packet) =>
    match answer with
    | .sent => (true, packet :: (drainDatagrams streamId received).2)
    | .full => (true, (drainDatagrams streamId received).2)
    | .closed => (true, [])
  | .ok none => drainDatagrams streamId received
  | .error _ => drainDatagrams streamId received

-- The Tunnel

structure Config where
  t : Usize
  dataCheck : Bool
  announce : Bool
  validationTimeout : Nat

inductive Control where
  | migrate
  | close

/- An arm of the `select!`. -/
inductive Arm where
  | keepalive
  | probe
  | received
  | control (message : Option Control)
  | outbound (packet : Bytes) (queued : List (Bytes × Bool))
  | outboundClosed
  | timeout

/- How `run` returned. -/
inductive Ending where
  | closed
  | validationTimeout
  | failed (e : AetherError)

inductive Phase where
  | select
  | connect
  | poll
  | drain
  | flush
  | returned (ending : Ending)

/- What the loop does to the outside. -/
inductive Mark where
  | accepted
  | ready (announced sent : Bool)
  | encoded (packet framed : Bytes)
deriving DecidableEq

structure Tunnel where
  readyTx : Bool
  readyFired : Bool
  validateDeadline : Option Nat
  validateSuccesses : Nat
  predeliveryDrops : Nat
  h3Conn : Bool
  reqStream : Option Nat
  capsules : CapsuleParser
  establishedEver : Bool
  echRetried : Bool
  currentEch : Option Bytes
  ctrlOpen : Bool
  outboundOpen : Bool
  phase : Phase
  assigned : List AssignedAddr
  inbound : List Bytes
  marks : List Mark

def dataProbeRequiredSuccesses : Nat := 2

def packetBatch : Nat := 32

namespace Tunnel

def start (readyTx : Bool) (ech : Option Bytes) : Tunnel where
  readyTx := readyTx
  readyFired := false
  validateDeadline := none
  validateSuccesses := 0
  predeliveryDrops := 0
  h3Conn := false
  reqStream := none
  capsules := .new
  establishedEver := false
  echRetried := false
  currentEch := ech
  ctrlOpen := true
  outboundOpen := true
  phase := .select
  assigned := []
  inbound := []
  marks := []

variable (s : Tunnel)

def goto (phase : Phase) : Tunnel := { s with phase := phase }

def mark (marks : List Mark) : Tunnel := { s with marks := s.marks ++ marks }

def batch : Nat → List (Bytes × Bool) → List Bytes
| 0, _ => []
| _ + 1, [] => []
| n + 1, (packet, sent) :: queued => packet :: (if sent then batch n queued else [])

def sendOutbound (packet : Bytes) (queued : List (Bytes × Bool)) : Tunnel :=
  match s.reqStream, s.readyFired with
  | some streamId, true =>
    s.mark ((packet :: batch (packetBatch - 1) queued).map
      fun packet => .encoded packet (encodeIpDatagram streamId packet))
  | _, _ => { s with predeliveryDrops := s.predeliveryDrops + 1 }

/- The `select!`: an arm whose guard holds. -/
def select (c : Config) : Arm → Option Tunnel
| .keepalive => some s
| .probe => if c.dataCheck && !s.readyFired then some s else none
| .received => some s
| .control message =>
  if s.ctrlOpen then
    match message with
    | some .migrate => some s
    | some .close => some { s with ctrlOpen := false }
    | none => some { s with ctrlOpen := false }
  else none
| .outbound packet queued =>
  if s.outboundOpen then some (s.sendOutbound packet queued)
  else none
| .outboundClosed =>
  if s.outboundOpen then some { s with outboundOpen := false }
  else none
| .timeout => some s

/- The top of the loop, up to the end of the `select!`. -/
def wake (c : Config) (now : Nat) (arm : Arm) : Option Tunnel :=
  if c.dataCheck && !s.readyFired && s.validateDeadline.any (· ≤ now) then
    some (s.goto (.returned .validationTimeout))
  else (s.select c arm).map fun s => s.goto .connect

def connect (c : Config) (established : Bool)
  (opened : Except AetherError Nat) (now : Nat) : Tunnel :=
  if established && !s.h3Conn then
    match opened with
    | .error e => { s with establishedEver := true, phase := .returned (.failed e) }
    | .ok streamId =>
      { s with
        establishedEver := true
        reqStream := some streamId
        h3Conn := true
        validateDeadline :=
          if c.dataCheck then some (now + c.validationTimeout)
          else s.validateDeadline
        phase := .poll }
  else s.goto .poll

/- `ready_fired` is set and the signal goes out. -/
def fire (c : Config) : Tunnel :=
  { s with readyFired := true, readyTx := false, marks := s.marks ++ [.ready c.announce s.readyTx] }

def polled (p : Polled) : Tunnel :=
  { s with
    capsules := p.capsules, assigned := s.assigned ++ p.assigned,
    marks := s.marks ++ (if p.accepted then [.accepted] else []) }

def answer (c : Config) (p : Polled) : Tunnel :=
  match p.error with
  | some e => (s.polled p).goto (.returned (.failed e))
  | none =>
    if p.accepted && !c.dataCheck && !s.readyFired then ((s.polled p).fire c).goto .drain
    else (s.polled p).goto .drain

def poll (c : Config) (events : List H3Event) : Option Tunnel :=
  match s.h3Conn, s.reqStream with
  | true, some streamId => some (s.answer c (pollH3 c.t streamId s.capsules events))
  | _, _ => if events = [] then some (s.goto .drain) else none

/- Whether DATAGRAMs of the request stream deliver a packet. -/
def delivers (received : List (Bytes × TrySend)) : Bool :=
  match s.reqStream with
  | some streamId => (drainDatagrams streamId received).1
  | none => false

def deliver (received : List (Bytes × TrySend)) : Tunnel :=
  match s.reqStream with
  | some streamId => { s with inbound := s.inbound ++ (drainDatagrams streamId received).2 }
  | none => s

def validate (c : Config) : Tunnel :=
  if dataProbeRequiredSuccesses ≤ s.validateSuccesses + 1 then
    { s.fire c with validateSuccesses := s.validateSuccesses + 1, validateDeadline := none }
  else { s with validateSuccesses := s.validateSuccesses + 1 }

def drain (c : Config) (received : List (Bytes × TrySend)) : Tunnel :=
  if s.delivers received && !s.readyFired then ((s.deliver received).validate c).goto .flush
  else (s.deliver received).goto .flush

def reconnect (ech : Bytes) : Tunnel :=
  { s with
    echRetried := true, currentEch := some ech, h3Conn := false, reqStream := none,
    capsules := .new, phase := .select }

def flush (flushed : Except AetherError Unit) (closed : Bool)
  (retry : Option Bytes) (reconnected : Except AetherError Unit) : Tunnel :=
  match flushed with
  | .error e => s.goto (.returned (.failed e))
  | .ok () =>
    if closed then
      match if !s.establishedEver && !s.echRetried && s.currentEch.isSome then retry
        else none with
      | some ech =>
        match reconnected with
        | .error e => (s.reconnect ech).goto (.returned (.failed e))
        | .ok () => s.reconnect ech
      | none => s.goto (.returned .closed)
    else s.goto .select

-- Runs

inductive Event where
  | wake (now : Nat) (arm : Arm)
  | connect (established : Bool) (opened : Except AetherError Nat) (now : Nat)
  | poll (events : List H3Event)
  | drain (received : List (Bytes × TrySend))
  | flush (flushed : Except AetherError Unit)
    (closed : Bool) (retry : Option Bytes) (reconnected : Except AetherError Unit)

def step (c : Config) (s : Tunnel) (e : Event) : Option Tunnel :=
  match s.phase, e with
  | .select, .wake now arm => s.wake c now arm
  | .connect, .connect established opened now => some (s.connect c established opened now)
  | .poll, .poll events => s.poll c events
  | .drain, .drain received => some (s.drain c received)
  | .flush, .flush flushed closed retry reconnected =>
    some (s.flush flushed closed retry reconnected)
  | _, _ => none

end Tunnel

end Kourosh.Quic
