import Kourosh.Lib.Run
import Kourosh.Netstack.Connection
import Kourosh.Netstack.Interface
import Mathlib.Data.List.AList

/-
  The netstack: its socket set, its two connection tables and the calls of its loop.

  A handle is a slot of the socket set, and the slot of a removed socket is free for a later one.
-/

-- State

namespace Kourosh.Netstack

abbrev Datagram := SocketAddr × Bytes

structure UdpSocket where
  owner : Nat
  rx : List Datagram
  received : List Datagram
  sent : List Datagram

inductive Socket where
  | tcp (sock : TcpSocket)
  | udp (sock : UdpSocket)

/- An entry of `udp_conns`. -/
structure UdpState where
  handle : Nat
  toApp : Channel Datagram

@[ext] structure UdpConn where
  entry : UdpState
  sock : UdpSocket

namespace UdpConn

/- The receive loop of `service_udp`. -/
def service (c : UdpConn) (turns : List (List Channel.Move)) : UdpConn :=
  let d := Channel.deliver maxRecvChunks turns c.sock.rx c.entry.toApp
  { entry := ⟨c.entry.handle, d.channel⟩
    sock := ⟨c.sock.owner, d.rest, c.sock.received, c.sock.sent⟩ }

/- `send_slice`, which takes the datagram or has no room. -/
def send (c : UdpConn) (taken : Bool) (d : Datagram) : UdpConn where
  entry := c.entry
  sock := ⟨c.sock.owner, c.sock.rx, c.sock.received,
    if taken then c.sock.sent ++ [d] else c.sock.sent⟩

end UdpConn

inductive DataIn where
  | tcp (id : Nat) (data : Bytes)
  | tcpClose (id : Nat)
  | udp (id : Nat) (dst : SocketAddr) (data : Bytes)
  | udpClose (id : Nat)
deriving DecidableEq

def DataIn.id : DataIn → Nat
| .tcp id _ => id
| .tcpClose id => id
| .udp id _ _ => id
| .udpClose id => id

inductive Cmd where
  | openTcp (dst : SocketAddr)
  | openUdp
  | setAddrs (v4 : Option (Ipv4Addr × UInt8)) (v6 : Option (Ipv6Addr × UInt8))
  | enableAccept

inductive Phase where
  | idle
  | tcp (todo : List Nat)
  | udp (todo : List Nat)
deriving DecidableEq

structure Tables where
  sockets : AList fun _ : Nat => Socket
  tcpConns : AList fun _ : Nat => TcpState
  udpConns : AList fun _ : Nat => UdpState

/-
  The history: the ids given out, the messages handled, and the connections as they were when
  their entry was removed or replaced.
-/
structure Log where
  created : List Nat
  handled : List DataIn
  retired : List (Nat × Conn)
  retiredUdp : List (Nat × UdpConn)

structure NetStack where
  tables : Tables
  nextId : Nat
  nextPort : UInt16
  iface : Interface
  acceptTx : Bool
  phase : Phase
  dataIn : List DataIn
  log : Log

/- `sysprofile::Tier`. -/
inductive Tier where
  | low
  | medium
  | high

structure Profile where
  width : Usize
  tier : Tier

/- `app_queue()`: the length of the queues of the stack. -/
def Profile.channelCapacity (p : Profile) : Nat :=
  match p.tier with
  | .low => 128
  | .medium => 512
  | .high => 1024

inductive Panic where
  | handle
  | address

-- Tables

namespace Tables

def empty : Tables where
  sockets := ∅
  tcpConns := ∅
  udpConns := ∅

/- `sockets.get_mut::<tcp::Socket>(handle)`. -/
def tcpSocket (t : Tables) (handle : Nat) : Option TcpSocket :=
  match t.sockets.lookup handle with
  | some (.tcp sock) => some sock
  | _ => none

/- `sockets.get_mut::<udp::Socket>(handle)`. -/
def udpSocket (t : Tables) (handle : Nat) : Option UdpSocket :=
  match t.sockets.lookup handle with
  | some (.udp sock) => some sock
  | _ => none

def conn (t : Tables) (id : Nat) : Option Conn :=
  (t.tcpConns.lookup id).bind fun entry => (t.tcpSocket entry.handle).map fun sock => ⟨entry, sock⟩

def udpConn (t : Tables) (id : Nat) : Option UdpConn :=
  (t.udpConns.lookup id).bind fun entry => (t.udpSocket entry.handle).map fun sock => ⟨entry, sock⟩

def putTcp (t : Tables) (id : Nat) (c : Conn) : Tables where
  sockets := t.sockets.insert c.entry.handle (.tcp c.sock)
  tcpConns := t.tcpConns.insert id c.entry
  udpConns := t.udpConns

def putUdp (t : Tables) (id : Nat) (c : UdpConn) : Tables where
  sockets := t.sockets.insert c.entry.handle (.udp c.sock)
  tcpConns := t.tcpConns
  udpConns := t.udpConns.insert id c.entry

def setTcpEntry (t : Tables) (id : Nat) (entry : TcpState) : Tables where
  sockets := t.sockets
  tcpConns := t.tcpConns.insert id entry
  udpConns := t.udpConns

def setUdpEntry (t : Tables) (id : Nat) (entry : UdpState) : Tables where
  sockets := t.sockets
  tcpConns := t.tcpConns
  udpConns := t.udpConns.insert id entry

def setSocket (t : Tables) (handle : Nat) (sock : Socket) : Tables where
  sockets := t.sockets.insert handle sock
  tcpConns := t.tcpConns
  udpConns := t.udpConns

def removeTcp (t : Tables) (id handle : Nat) : Tables where
  sockets := t.sockets.erase handle
  tcpConns := t.tcpConns.erase id
  udpConns := t.udpConns

def removeUdp (t : Tables) (id handle : Nat) : Tables where
  sockets := t.sockets.erase handle
  tcpConns := t.tcpConns
  udpConns := t.udpConns.erase id

end Tables

-- Updates

namespace NetStack

def setTables (s : NetStack) (tables : Tables) : NetStack := { s with tables := tables }

def setPhase (s : NetStack) (phase : Phase) : NetStack := { s with phase := phase }

def setDataIn (s : NetStack) (dataIn : List DataIn) : NetStack := { s with dataIn := dataIn }

def setIface (s : NetStack) (iface : Interface) : NetStack := { s with iface := iface }

def setAcceptTx (s : NetStack) : NetStack := { s with acceptTx := true }

/- `alloc_port`: the local ports go round. -/
def allocPort (s : NetStack) : NetStack :=
  { s with nextPort := if s.nextPort ≥ 65000 then 49152 else s.nextPort + 1 }

/- The id is given out: `let id = next_id; next_id += 1`. -/
def takeId (s : NetStack) (p : Profile) (tables : Tables)
  (dropped : List (Nat × Conn)) (droppedUdp : List (Nat × UdpConn)) : NetStack :=
  { s with
    tables := tables
    nextId := p.width.cast (s.nextId + 1)
    log := { s.log with
      created := s.log.created ++ [s.nextId]
      retired := s.log.retired ++ dropped
      retiredUdp := s.log.retiredUdp ++ droppedUdp } }

def takeData (s : NetStack) (msg : DataIn) (dataIn : List DataIn) (tables : Tables) : NetStack :=
  { s with
    tables := tables
    dataIn := dataIn
    log := { s.log with handled := s.log.handled ++ [msg] } }

def retire (s : NetStack) (id : Nat) (c : Conn) : NetStack :=
  { s with
    tables := s.tables.removeTcp id c.entry.handle
    log := { s.log with retired := s.log.retired ++ [(id, c)] } }

def retireUdp (s : NetStack) (id : Nat) (c : UdpConn) : NetStack :=
  { s with
    tables := s.tables.removeUdp id c.entry.handle
    log := { s.log with retiredUdp := s.log.retiredUdp ++ [(id, c)] } }

-- Calls Of The Loop

def fresh (iface : Interface) : NetStack where
  tables := .empty
  nextId := 1
  nextPort := 49152
  iface := iface
  acceptTx := false
  phase := .idle
  dataIn := []
  log := ⟨[], [], [], []⟩

end NetStack

/-
  What smoltcp makes of a new socket: whether `connect`, `bind` or `listen` succeeds, and the slot
  `add` gives it.
-/
structure Opening where
  opened : Bool
  slot : Nat

def isTcpSyn (pkt : Bytes) : Bool :=
  if pkt.length < 40 then false
  else if byteAt pkt 0 >>> 4 ≠ 4 then false
  else if byteAt pkt 9 ≠ 6 then false
  else if pkt.length < (byteAt pkt 0 &&& 0x0f).toNat * 4 + 20 then false
  else
    let flags := byteAt pkt ((byteAt pkt 0 &&& 0x0f).toNat * 4 + 13)
    flags &&& 0x02 ≠ 0 && flags &&& 0x10 = 0

def parseTcpSyn (pkt : Bytes) : Option (SocketAddrV4 × SocketAddrV4) :=
  if pkt.length < 40 then none
  else if byteAt pkt 0 >>> 4 ≠ 4 then none
  else if pkt.length < (byteAt pkt 0 &&& 0x0f).toNat * 4 + 20 then none
  else
    let tcp := (byteAt pkt 0 &&& 0x0f).toNat * 4
    some (⟨⟨byteAt pkt 16, byteAt pkt 17, byteAt pkt 18, byteAt pkt 19⟩, u16At pkt (tcp + 2)⟩,
      ⟨⟨byteAt pkt 12, byteAt pkt 13, byteAt pkt 14, byteAt pkt 15⟩, u16At pkt tcp⟩)

namespace NetStack

variable (s : NetStack)

def replaced : List (Nat × Conn) :=
  (s.tables.conn s.nextId).toList.map fun c => (s.nextId, c)

def replacedUdp : List (Nat × UdpConn) :=
  (s.tables.udpConn s.nextId).toList.map fun c => (s.nextId, c)

def openTcp (p : Profile) (slot : Nat) (state : State)
  (connectResp : Bool) : NetStack :=
  s.takeId p (s.tables.putTcp s.nextId ⟨.new s.nextId slot p.channelCapacity connectResp,
    .new s.nextId state⟩) s.replaced []

def openUdp (p : Profile) (slot : Nat) : NetStack :=
  s.takeId p (s.tables.putUdp s.nextId ⟨⟨slot, .empty s.nextId p.channelCapacity⟩,
    ⟨s.nextId, [], [], []⟩⟩) [] s.replacedUdp

def handleCmd (p : Profile) (opening : Opening) : Cmd → Except Panic NetStack
| .openTcp _ =>
  if opening.opened then .ok (s.allocPort.openTcp p opening.slot .synSent true)
  else .ok s.allocPort
| .openUdp =>
  if opening.opened then .ok (s.allocPort.openUdp p opening.slot)
  else .ok s.allocPort
| .setAddrs v4 v6 =>
  match applyAddrs s.iface v4 v6 with
  | some iface => .ok (s.setIface iface)
  | none => .error .address
| .enableAccept => .ok s.setAcceptTx

/- The transparent accept of `run`: a listener for a SYN. -/
def inbound (p : Profile) (opening : Opening) (pkt : Bytes) : NetStack :=
  if s.acceptTx && isTcpSyn pkt && (parseTcpSyn pkt).isSome && opening.opened then
    s.openTcp p opening.slot .listen false
  else s

def onTcpEntry (id : Nat) (f : TcpState → TcpState) : Tables :=
  match s.tables.tcpConns.lookup id with
  | some entry => s.tables.setTcpEntry id (f entry)
  | none => s.tables

/-
  `handle_data` on the oldest message; `sent` is whether the UDP socket has room for the datagram.
-/
def handleData (sent : Bool) (rest : List DataIn) : DataIn → Except Panic NetStack
| .tcp id data =>
  .ok (s.takeData (.tcp id data) rest (s.onTcpEntry id fun entry =>
    entry.setPending (entry.pending ++ data)))
| .tcpClose id => .ok (s.takeData (.tcpClose id) rest (s.onTcpEntry id TcpState.setHalfClosed))
| .udp id dst data =>
  match s.tables.udpConns.lookup id with
  | none => .ok (s.takeData (.udp id dst data) rest s.tables)
  | some entry =>
    match s.tables.udpSocket entry.handle with
    | none => .error .handle
    | some sock =>
      .ok (s.takeData (.udp id dst data) rest (s.tables.putUdp id
        (UdpConn.send ⟨entry, sock⟩ sent (dst, data))))
| .udpClose id =>
  match s.tables.udpConns.lookup id with
  | none => .ok (s.takeData (.udpClose id) rest s.tables)
  | some entry =>
    match s.tables.sockets.lookup entry.handle with
    | none => .error .handle
    | some (.tcp _) => .ok (s.takeData (.udpClose id) rest (s.tables.removeUdp id entry.handle))
    | some (.udp sock) => .ok ((s.takeData (.udpClose id) rest s.tables).retireUdp id ⟨entry, sock⟩)

def finishVisit (id : Nat) : Conn × Verdict → NetStack
| (c, .keep) => s.setTables (s.tables.putTcp id c)
| (c, .refused) => s.retire id c
| (c, .finished) => s.retire id c

/- One turn of the loop of `service_tcp`. -/
def visitTcp (visit : Visit) (id : Nat) (todo : List Nat) : Except Panic NetStack :=
  match s.tables.tcpConns.lookup id with
  | none => .ok (s.setPhase (.tcp todo))
  | some entry =>
    match s.tables.tcpSocket entry.handle with
    | none => .error .handle
    | some sock => .ok ((s.setPhase (.tcp todo)).finishVisit id (Conn.service ⟨entry, sock⟩ visit))

/- One turn of the loop of `service_udp`. -/
def visitUdp (turns : List (List Channel.Move)) (id : Nat)
  (todo : List Nat) : Except Panic NetStack :=
  match s.tables.udpConns.lookup id with
  | none => .ok (s.setPhase (.udp todo))
  | some entry =>
    match s.tables.udpSocket entry.handle with
    | none =>
      if (entry.toApp.acts (turns.headD [])).tryReserve = .slot then .error .handle
      else
        .ok ((s.setPhase (.udp todo)).setTables (s.tables.setUdpEntry id ⟨entry.handle,
          entry.toApp.acts (turns.headD [])⟩))
    | some sock =>
      .ok ((s.setPhase (.udp todo)).setTables (s.tables.putUdp id
        (UdpConn.service ⟨entry, sock⟩ turns)))

def appTcp (id : Nat) (moves : List Channel.Move) : NetStack :=
  s.setTables (s.onTcpEntry id fun entry => entry.acts moves)

def appUdp (id : Nat) (moves : List Channel.Move) : NetStack :=
  match s.tables.udpConns.lookup id with
  | some entry => s.setTables (s.tables.setUdpEntry id ⟨entry.handle, entry.toApp.acts moves⟩)
  | none => s

/- `poll` changes a TCP socket. -/
def segment (slot : Nat) (sock : TcpSocket) : NetStack :=
  s.setTables (s.tables.setSocket slot (.tcp sock))

/- `poll` hands a datagram to a UDP socket. -/
def datagram (slot : Nat) (sock : UdpSocket) (d : Datagram) : NetStack :=
  s.setTables
    (s.tables.setSocket slot (.udp ⟨sock.owner, sock.rx ++ [d], sock.received ++ [d], sock.sent⟩))

end NetStack

-- Runs

/- What happens in a run. -/
inductive Event where
  | cmd (cmd : Cmd) (opening : Opening)
  | inbound (pkt : Bytes) (opening : Opening)
  | queue (msg : DataIn)
  | data (sent : Bool)
  | segment (slot : Nat) (state : State) (bytes : Bytes) (slices : List Bytes)
  | datagram (slot : Nat) (d : Datagram)
  | beginTcp (ids : List Nat)
  | visitTcp (visit : Visit)
  | beginUdp (ids : List Nat)
  | visitUdp (turns : List (List Channel.Move))
  | endWalk
  | appTcp (id : Nat) (moves : List Channel.Move)
  | appUdp (id : Nat) (moves : List Channel.Move)

namespace NetStack

/- The loop is in its `select`, and the slot is free. -/
def ready (s : NetStack) (opening : Opening) : Bool :=
  s.phase = .idle && (s.tables.sockets.lookup opening.slot).isNone

def next (s : NetStack) (p : Profile) : Event → Option (Except Panic NetStack)
| .cmd cmd opening =>
  if s.ready opening then some (s.handleCmd p opening cmd)
  else none
| .inbound pkt opening =>
  if s.ready opening then some (.ok (s.inbound p opening pkt))
  else none
| .queue msg =>
  -- an application gets an id from the stack only
  if msg.id ∈ s.log.created then some (.ok (s.setDataIn (s.dataIn ++ [msg])))
  else none
| .data sent =>
  match s.phase, s.dataIn with
  | .idle, msg :: rest => some (s.handleData sent rest msg)
  | _, _ => none
| .segment slot state bytes slices =>
  match s.phase, s.tables.tcpSocket slot with
  | .idle, some sock =>
    if slices.flatten = sock.rx.flatten ++ bytes ∧ [] ∉ slices then
      some (.ok (s.segment slot (sock.poll state bytes slices)))
    else none
  | _, _ => none
| .datagram slot d =>
  match s.phase, s.tables.udpSocket slot with
  | .idle, some sock => some (.ok (s.datagram slot sock d))
  | _, _ => none
| .beginTcp ids =>
  if s.phase = .idle ∧ ids.Perm s.tables.tcpConns.keys then some (.ok (s.setPhase (.tcp ids)))
  else none
| .visitTcp visit =>
  match s.phase with
  | .tcp (id :: todo) => some (s.visitTcp visit id todo)
  | _ => none
| .beginUdp ids =>
  if s.phase = .idle ∧ ids.Perm s.tables.udpConns.keys then some (.ok (s.setPhase (.udp ids)))
  else none
| .visitUdp turns =>
  match s.phase with
  | .udp (id :: todo) => some (s.visitUdp turns id todo)
  | _ => none
| .endWalk =>
  match s.phase with
  | .tcp [] => some (.ok (s.setPhase .idle))
  | .udp [] => some (.ok (s.setPhase .idle))
  | _ => none
| .appTcp id moves => some (.ok (s.appTcp id moves))
| .appUdp id moves => some (.ok (s.appUdp id moves))

end NetStack

def step (p : Profile) : Except Panic NetStack → Event → Option (Except Panic NetStack)
| .ok s, e => s.next p e
| .error _, _ => none

end Kourosh.Netstack
