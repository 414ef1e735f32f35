import Kourosh.Lib.Run
import Kourosh.Tun2socks.Segment

/-
  The bridge between the TUN device and the SOCKS proxy.

  The TUN read loop handles one packet after the other.
-/

-- Flows

namespace Kourosh.Tun2socks

open Function

/- What a connect task captures. -/
structure FlowKey where
  srcIp : Ipv4Addr
  dstIp : Ipv4Addr
  sport : UInt16
  dport : UInt16
  seqNum : UInt32
  isn : UInt32
  app : Nat

namespace FlowKey

def ofSyn (seg : Segment) (isn : UInt32) (app : Nat) : FlowKey where
  srcIp := seg.srcIp
  dstIp := seg.dstIp
  sport := seg.sport
  dport := seg.dport
  seqNum := seg.seqNum
  isn := isn
  app := app

def dst (key : FlowKey) : SocketAddrV4 where
  ip := key.dstIp
  port := key.dport

end FlowKey

inductive ConnectTask where
  | unspawned
  -- in `connect_through_socks`
  | connecting
  -- connected, and the entry was found connecting
  | checked
  -- the sequence number is set to the first data byte
  | stored
  -- the entry is in the table
  | installed
  -- reader and writer run, the SYN-ACK is still to be sent
  | announcing
  -- the RST is sent, the entry is still to be removed
  | refused
  | done
deriving DecidableEq

def ConnectTask.beforeInstall : ConnectTask → Bool
| unspawned | connecting | checked | stored => true
| installed | announcing | refused | done => false

inductive Reader where
  | absent
  | running
  -- a chunk is sent, `seq_shared` is still to be advanced
  | advancing (seq : UInt32) (n : Nat)
  -- out of the loop, the entry is still to be removed
  | stopped
  | done
deriving DecidableEq

inductive Writer where
  | absent
  | waiting
  | writing (data : Bytes)
  | done
deriving DecidableEq

structure Chunk where
  dst : SocketAddrV4
  bytes : Bytes
deriving DecidableEq

/- The data channel of a flow. -/
structure Channel where
  stream : SocketAddrV4
  queue : List Bytes
  receiving : Bool
  sent : List Chunk

namespace Channel

def capacity : Nat := 128

/- `mpsc::channel(128)` for a stream to `target`. -/
def new (target : SocketAddrV4) : Channel where
  stream := target
  queue := []
  receiving := true
  sent := []

/- `try_send`: fails on a full or abandoned channel. -/
def trySend (ch : Channel) (chunk : Chunk) : Option Channel :=
  if ch.receiving ∧ ch.queue.length < capacity then
    some { ch with queue := ch.queue ++ [chunk.bytes], sent := ch.sent ++ [chunk] }
  else none

lemma sent_trySend
  {channel channel' : Channel} {chunk : Chunk} (hSend : channel.trySend chunk = some channel') :
  channel'.stream = channel.stream ∧ channel'.sent = channel.sent ++ [chunk] := by
  unfold trySend at hSend
  split at hSend
  · cases hSend
    exact ⟨rfl, rfl⟩
  · cases hSend

/- `try_send` would succeed. -/
def hasRoom (ch : Channel) : Bool := ch.receiving && ch.queue.length < capacity

lemma trySend_isSome
  {ch : Channel} (hRoom : ch.hasRoom) (chunk : Chunk) : ch.trySend chunk ≠ none := by
  simp only [hasRoom, Bool.and_eq_true, decide_eq_true_eq] at hRoom
  rw [trySend, if_pos hRoom]
  simp

def kept (ch : Channel) : Nat := (ch.sent.map fun chunk => chunk.bytes.length).sum

end Channel

structure Flow where
  key : FlowKey
  ackShared : UInt32
  seqShared : UInt32
  task : ConnectTask
  reader : Reader
  writer : Writer
  channel : Channel

namespace Flow

def spawned (key : FlowKey) : Flow where
  key := key
  ackShared := key.seqNum + 1
  seqShared := key.isn
  task := .connecting
  reader := .absent
  writer := .absent
  channel := { stream := key.dst, queue := [], receiving := false, sent := [] }

/- `ack_shared.store(ack)`. -/
def storeAck (flow : Flow) (ack : UInt32) : Flow := { flow with ackShared := ack }

def setChannel (flow : Flow) (channel : Channel) : Flow := { flow with channel }

def install (flow : Flow) : Flow := { flow with task := .installed, channel := .new flow.key.dst }

@[simp] lemma key_install (flow : Flow) : flow.install.key = flow.key := rfl

def blank : Flow := { spawned ⟨⟨0, 0, 0, 0⟩, ⟨0, 0, 0, 0⟩, 0, 0, 0, 0, 0⟩ with task := .unspawned }

end Flow

-- New Data

/- `x as i32`. -/
def asI32 (x : UInt32) : Int := x.toBitVec.toInt

inductive Action where
  | forward (off : Nat)
  | ackOnly

/- Compare the start of a segment with the next byte expected from the app. -/
def segmentAction (expected : UInt32) (seg : Segment) : Action :=
  let behind := asI32 (expected - seg.seqNum)
  if behind = 0 then .forward 0
  else if behind > 0 then
    if behind.toNat ≥ seg.payload.length then .ackOnly
    else .forward behind.toNat
  else .ackOnly

-- Events

inductive Spawn where
  | both
  -- the descriptor for the reader cannot be duplicated
  | writerOnly
  -- `AsyncFd::new(..).unwrap()` panics, and the receiver of
  -- the channel is dropped with the task
  | panics
deriving DecidableEq

inductive ConnectEvent where
  | abort
  | succeed
  | store
  | install
  | spawn (outcome : Spawn)
  | synAck
  | fail
  | evict
deriving DecidableEq

inductive Stop where
  | idleTimeout
  | endOfStream
  | readError
deriving DecidableEq

def Stop.flags : Stop → UInt8
| idleTimeout | endOfStream => 0x11
| readError => 0x04

inductive ReaderEvent where
  | recv (data : Bytes)
  | advance
  | stop (cause : Stop)
  | evict
deriving DecidableEq

inductive WriterEvent where
  | recv
  | wrote
  | failed
deriving DecidableEq

/- The step of some task. -/
inductive Event where
  | packet (bytes : Bytes) (isn : UInt32) (app : Nat)
  | resume
  | connect (f : Nat) (e : ConnectEvent)
  | reader (f : Nat) (e : ReaderEvent)
  | writer (f : Nat) (e : WriterEvent)

-- Shared State

/- A table entry. -/
structure TcpConn where
  dataTx : Option Nat
  flow : Nat
  isn : UInt32
  connecting : Bool
deriving DecidableEq

/- The arguments of `send_tcp_ex`. -/
structure TunPacket where
  srcIp : Ipv4Addr
  dstIp : Ipv4Addr
  srcPort : UInt16
  dstPort : UInt16
  seq : UInt32
  ack : UInt32
  flags : UInt8
  payload : Bytes
  withMss : Bool

def answer (seg : Segment) (seq ack : UInt32) (flags : UInt8) (withMss : Bool) : TunPacket where
  srcIp := seg.dstIp
  dstIp := seg.srcIp
  srcPort := seg.dport
  dstPort := seg.sport
  seq := seq
  ack := ack
  flags := flags
  payload := []
  withMss := withMss

def FlowKey.toApp (key : FlowKey)
  (seq ack : UInt32) (flags : UInt8) (payload : Bytes) (withMss : Bool) : TunPacket where
  srcIp := key.dstIp
  dstIp := key.srcIp
  srcPort := key.dport
  dstPort := key.sport
  seq := seq
  ack := ack
  flags := flags
  payload := payload
  withMss := withMss

/-
  A packet given to the TUN device, with the flow whose counters it carries and the bytes that
  flow's channel had accepted when the counters were read.
-/
structure Stamp where
  flow : Option Nat
  kept : Nat
  packet : TunPacket

inductive Handler where
  | idle
  -- the SYN found no entry, its own is not inserted yet
  | accepting (seg : Segment) (isn : UInt32) (app : Nat)
  -- the counter is advanced, the data is not enqueued yet
  | forwarding (seg : Segment) (off : Nat) (tx : Option Nat)
  -- the acknowledgement is still to be sent
  | replying (seg : Segment)
  | panicked
deriving DecidableEq

/-
  What the app has done on its side: the connection that last sent a SYN from a port, and the
  connections it has closed.
-/
structure AppHistory where
  last : UInt16 → Option Nat
  closed : Nat → Bool

/- The state of the bridge. -/
structure Bridge where
  conns : UInt16 → Option TcpConn
  flows : Nat → Flow
  count : Nat
  handler : Handler
  tun : List Stamp
  newest : UInt16 → Option Nat
  apps : AppHistory

namespace Bridge

def init : Bridge where
  conns := fun _ => none
  flows := fun _ => .blank
  count := 0
  handler := .idle
  tun := []
  newest := fun _ => none
  apps := { last := fun _ => none, closed := fun _ => false }

variable (s : Bridge)

/- `conns.insert(port, conn)`. -/
def insertConn (port : UInt16) (conn : TcpConn) : Bridge :=
  { s with conns := update s.conns port (some conn) }

/- `conns.remove(&port)`. -/
def removeConn (port : UInt16) : Bridge := { s with conns := update s.conns port none }

def setFlow (f : Nat) (flow : Flow) : Bridge :=
  { s with flows := update s.flows f flow }

def setHandler (handler : Handler) : Bridge := { s with handler }

/- Give a packet with the counters of `f` to the device. -/
def stamp (f : Nat) (packet : TunPacket) : Bridge :=
  { s with tun := s.tun ++ [⟨some f, (s.flows f).channel.kept, packet⟩] }

def refuse (packet : TunPacket) : Bridge :=
  { s with tun := s.tun ++ [⟨none, 0, packet⟩] }

def noteApp (seg : Segment) (app : Nat) : Bridge :=
  if seg.closes then
    { s with
      apps := { s.apps with closed := update s.apps.closed app true } }
  else if seg.opens then
    { s with
      apps := { s.apps with last := update s.apps.last seg.sport (some app) } }
  else s

-- The Packet Handler

def handleSyn (seg : Segment) (isn : UInt32) (app : Nat) : Bridge :=
  if seg.dstIp.isPrivate then s.refuse (answer seg 0 (seg.seqNum + 1) 0x14 false)
  else
    match s.conns seg.sport with
    | some conn =>
      if conn.connecting then s
      else s.stamp conn.flow (answer seg conn.isn (s.flows conn.flow).ackShared 0x12 true)
    | none => s.setHandler (.accepting seg isn app)

def handleData (seg : Segment) : Bridge :=
  match s.conns seg.sport with
  | none => s
  | some conn =>
    if conn.connecting then s
    else
      let flow := s.flows conn.flow
      match segmentAction flow.ackShared seg with
      | .forward off =>
        (s.setFlow conn.flow (flow.storeAck seg.stop)).setHandler (.forwarding seg off conn.dataTx)
      | .ackOnly => s.setHandler (.replying seg)

/- `handle_tcp`, up to its first pause. -/
def handleTcp (seg : Segment) (isn : UInt32) (app : Nat) : Bridge :=
  if seg.closes then s.removeConn seg.sport
  else if seg.isSyn then s.handleSyn seg isn app
  else if seg.isAck && seg.payload.length > 0 then s.handleData seg else s

def receive (packet : Bytes) (isn : UInt32) (app : Nat) : Bridge :=
  match dispatch packet with
  | .tcp inbound =>
    match parseTcp inbound with
    | .short => s
    | .panics => s.setHandler .panicked
    | .segment seg => (s.noteApp seg app).handleTcp seg isn app
  | _ => s

def accept (seg : Segment) (isn : UInt32) (app : Nat) : Bridge :=
  { s with
    conns := update s.conns seg.sport (some
      { dataTx := none, flow := s.count, isn := isn, connecting := true })
    flows := update s.flows s.count (.spawned (.ofSyn seg isn app))
    count := s.count + 1
    handler := .idle
    newest := update s.newest seg.sport (some s.count) }

def forward (seg : Segment) (off : Nat) : Option Nat → Bridge
| none => s.setHandler (.replying seg)
| some f =>
  let flow := s.flows f
  match flow.channel.trySend ⟨seg.dst, seg.payload.drop off⟩ with
  | none => s.setHandler (.replying seg)
  | some channel => (s.setFlow f (flow.setChannel channel)).setHandler (.replying seg)

def reply (seg : Segment) : Bridge :=
  match s.conns seg.sport with
  | none => s.setHandler .idle
  | some conn =>
    let flow := s.flows conn.flow
    (s.stamp conn.flow (answer seg flow.seqShared flow.ackShared 0x10 false)).setHandler .idle

def resume : Option Bridge :=
  match s.handler with
  | .idle => none
  | .accepting seg isn app => some (s.accept seg isn app)
  | .forwarding seg off tx => some (s.forward seg off tx)
  | .replying seg => some (s.reply seg)
  | .panicked => none

-- The Tasks Of A Flow

def connectTask (f : Nat) (e : ConnectEvent) : Option Bridge :=
  let flow := s.flows f
  let key := flow.key
  match e, flow.task with
  | .abort, .connecting =>
    -- no descriptor of its own for the TUN device
    some (s.setFlow f { flow with task := .done })
  | .succeed, .connecting =>
    match s.conns key.sport with
    | some conn =>
      if conn.connecting then some (s.setFlow f { flow with task := .checked })
      else some (s.setFlow f { flow with task := .done })
    | none => some (s.setFlow f { flow with task := .done })
  | .store, .checked => some (s.setFlow f { flow with task := .stored, seqShared := key.isn + 1 })
  | .install, .stored =>
    some ((s.setFlow f flow.install).insertConn key.sport
      { dataTx := some f, flow := f, isn := key.isn, connecting := false })
  | .spawn .both, .installed =>
    some (s.setFlow f { flow with task := .announcing, reader := .running, writer := .waiting })
  | .spawn .writerOnly, .installed =>
    some (s.setFlow f { flow with task := .announcing, writer := .waiting })
  | .spawn .panics, .installed =>
    some (s.setFlow f { flow with
      task := .done
      channel := { flow.channel with receiving := false } })
  | .synAck, .announcing =>
    some ((s.setFlow f { flow with task := .done }).stamp f
      (key.toApp key.isn flow.ackShared 0x12 [] true))
  | .fail, .connecting =>
    some ((s.setFlow f { flow with task := .refused }).stamp f
      (key.toApp 0 (key.seqNum + 1) 0x04 [] false))
  | .evict, .refused => some ((s.setFlow f { flow with task := .done }).removeConn key.sport)
  | _, _ => none

/- `tun_response_reader`. -/
def tunResponseReader (f : Nat) (e : ReaderEvent) : Option Bridge :=
  let flow := s.flows f
  let key := flow.key
  match e, flow.reader with
  | .recv data, .running =>
    if 0 < data.length ∧ data.length ≤ 65535 then
      some ((s.setFlow f { flow with reader := .advancing flow.seqShared data.length }).stamp f
        (key.toApp flow.seqShared flow.ackShared 0x18 data false))
    else none
  | .advance, .advancing seq n =>
    some (s.setFlow f { flow with reader := .running, seqShared := seq + UInt32.ofNat n })
  | .stop cause, .running =>
    some ((s.setFlow f { flow with reader := .stopped }).stamp f
      (key.toApp flow.seqShared flow.ackShared cause.flags [] false))
  | .evict, .stopped => some ((s.setFlow f { flow with reader := .done }).removeConn key.sport)
  | _, _ => none

/- `socks_writer_task`. -/
def socksWriterTask (f : Nat) (e : WriterEvent) : Option Bridge :=
  let flow := s.flows f
  match e, flow.writer with
  | .recv, .waiting =>
    match flow.channel.queue with
    | [] => none
    | data :: queue =>
      some (s.setFlow f { flow with
        writer := .writing data
        channel := { flow.channel with queue } })
  | .wrote, .writing _ => some (s.setFlow f { flow with writer := .waiting })
  | .failed, .writing _ =>
    some (s.setFlow f { flow with
      writer := .done
      channel := { flow.channel with receiving := false } })
  | _, _ => none

-- Steps

def step : Event → Option Bridge
| .packet bytes isn app => if s.handler = .idle then some (s.receive bytes isn app) else none
| .resume => s.resume
| .connect f e => s.connectTask f e
| .reader f e => s.tunResponseReader f e
| .writer f e => s.socksWriterTask f e

end Bridge

end Kourosh.Tun2socks
