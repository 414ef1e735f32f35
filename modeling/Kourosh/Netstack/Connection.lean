import Kourosh.Basic
import Kourosh.Lib.Channel

/-
  One TCP connection of the netstack: its entry of the table `tcp_conns` and its smoltcp socket,
  and what one visit of `service_tcp` does to the two.
-/

-- Sockets

namespace Kourosh.Netstack

/- `smoltcp::socket::tcp::State`. -/
inductive State where
  | closed
  | listen
  | synSent
  | synReceived
  | established
  | finWait1
  | finWait2
  | closeWait
  | closing
  | lastAck
  | timeWait
deriving DecidableEq

/- The state `close` leads to: it ends the sending half. -/
def State.close : State → State
| .listen | .synSent => .closed
| .synReceived | .established => .finWait1
| .closeWait => .lastAck
| .closed => .closed
| .finWait1 => .finWait1
| .finWait2 => .finWait2
| .closing => .closing
| .lastAck => .lastAck
| .timeWait => .timeWait

/- `may_send`: the sending half is open. -/
def State.maySend : State → Bool
| .established | .closeWait => true
| _ => false

/- What a call of `close` found. -/
structure CloseCall where
  established : Bool
  alive : Bool
  halfClosed : Bool
  pending : Bytes
  accepted : Bytes

structure TcpSocket where
  owner : Nat
  state : State
  rx : List Bytes
  received : Bytes
  accepted : Bytes
  closes : List CloseCall

namespace TcpSocket

def new (owner : Nat) (state : State) : TcpSocket where
  owner := owner
  state := state
  rx := []
  received := []
  accepted := []
  closes := []

/- `poll` moves on: a new state, new bytes, new slices. -/
def poll (sock : TcpSocket) (state : State) (bytes : Bytes) (slices : List Bytes) : TcpSocket :=
  { sock with state := state, rx := slices, received := sock.received ++ bytes }

/- `send_slice` takes these bytes. -/
def accept (sock : TcpSocket) (bytes : Bytes) : TcpSocket :=
  { sock with accepted := sock.accepted ++ bytes }

/- `recv` has handed out all slices but these. -/
def setRx (sock : TcpSocket) (rx : List Bytes) : TcpSocket := { sock with rx := rx }

def close (sock : TcpSocket) (call : CloseCall) : TcpSocket :=
  { sock with state := sock.state.close, closes := sock.closes ++ [call] }

end TcpSocket

-- Entries

/- An entry of `tcp_conns`. -/
structure TcpState where
  handle : Nat
  toApp : Channel Bytes
  fromStackRx : Bool
  connectResp : Bool
  pending : Bytes
  established : Bool
  halfClosed : Bool

namespace TcpState

def new (id handle capacity : Nat) (connectResp : Bool) : TcpState where
  handle := handle
  toApp := .empty id capacity
  fromStackRx := true
  connectResp := connectResp
  pending := []
  established := false
  halfClosed := false

def setToApp (st : TcpState) (toApp : Channel Bytes) : TcpState := { st with toApp := toApp }

def setPending (st : TcpState) (pending : Bytes) : TcpState := { st with pending := pending }

def setHalfClosed (st : TcpState) : TcpState := { st with halfClosed := true }

/- The handshake is done. -/
def announce (st : TcpState) (taken : Bool) : TcpState :=
  { st with
    toApp := if st.fromStackRx && !(st.connectResp && taken) then
      st.toApp.close
      else st.toApp
    fromStackRx := false
    connectResp := false
    established := true }

def acts (st : TcpState) (moves : List Channel.Move) : TcpState :=
  if st.fromStackRx then st
  else st.setToApp (st.toApp.acts moves)

end TcpState

-- One Visit

@[ext] structure Conn where
  entry : TcpState
  sock : TcpSocket

/-
  What the rest of the system does during a visit: whether the opener still waits, how many bytes
  `send_slice` takes (none if the buffer is full), and the moves of the application before each
  `try_reserve`.
-/
structure Visit where
  taken : Bool
  offered : Nat
  turns : List (List Channel.Move)

inductive Verdict where
  | keep
  | refused
  | finished
deriving DecidableEq

def maxRecvChunks : Nat := 128

namespace Conn

def setEntry (c : Conn) (entry : TcpState) : Conn where
  entry := entry
  sock := c.sock

def setSock (c : Conn) (sock : TcpSocket) : Conn where
  entry := c.entry
  sock := sock

/- A call of `close`, with what it finds. -/
def close (c : Conn) : Conn := c.setSock (c.sock.close
  { established := c.entry.established, alive := c.entry.toApp.alive,
    halfClosed := c.entry.halfClosed, pending := c.entry.pending, accepted := c.sock.accepted })

def announce (c : Conn) (taken : Bool) : Conn :=
  if !c.entry.established && c.sock.state = .established
  then c.setEntry (c.entry.announce taken)
  else c

def dead (c : Conn) : Bool := !c.entry.established &&
  (c.sock.state = .closed || c.sock.state = .timeWait)

/- The pending bytes `send_slice` takes are drained. -/
def upload (c : Conn) (offered : Nat) : Conn :=
  if c.sock.state.maySend then
    { entry := c.entry.setPending (c.entry.pending.drop offered)
      sock := c.sock.accept (c.entry.pending.take offered) }
  else c

def endUpload (c : Conn) : Conn :=
  if c.entry.halfClosed && c.entry.pending.isEmpty then c.close
  else c

def turns (c : Conn) (visit : Visit) : List (List Channel.Move) :=
  if c.entry.fromStackRx then [] else visit.turns

def delivery (c : Conn) (visit : Visit) : Channel.Delivery Bytes :=
  Channel.deliver maxRecvChunks (c.turns visit) c.sock.rx c.entry.toApp

def download (c : Conn) (visit : Visit) : Conn where
  entry := c.entry.setToApp (c.delivery visit).channel
  sock := c.sock.setRx (c.delivery visit).rest

def leave (c : Conn) (stopped : Channel.Reservation) : Conn :=
  if stopped = .closed then c.close else c

def closeWait (c : Conn) : Conn := if c.sock.state = .closeWait then c.close else c

def done (c : Conn) : Bool := c.sock.state = .closed && c.entry.established

def uploaded (c : Conn) (visit : Visit) : Conn :=
  ((c.announce visit.taken).upload visit.offered).endUpload

def downloaded (c : Conn) (visit : Visit) : Conn :=
  ((c.uploaded visit).download visit).leave ((c.uploaded visit).delivery visit).stopped

/- The body of the loop of `service_tcp`. -/
def service (c : Conn) (visit : Visit) : Conn × Verdict :=
  if (c.announce visit.taken).dead then (c.announce visit.taken, .refused)
  else
    ((c.downloaded visit).closeWait, if (c.downloaded visit).done then .finished
      else .keep)

-- What A Visit Keeps

/-
  No byte is lost or moved to another place of a stream: the accepted bytes followed by the
  pending ones, and the delivered pieces followed by the receive buffer, stay as they are.
-/
structure Keeps (c c' : Conn) : Prop where
  handle : c'.entry.handle = c.entry.handle
  label : c'.entry.toApp.label = c.entry.toApp.label
  owner : c'.sock.owner = c.sock.owner
  upload : c'.sock.accepted ++ c'.entry.pending = c.sock.accepted ++ c.entry.pending
  received : c'.sock.received = c.sock.received
  download : c'.entry.toApp.delivered ++ c'.sock.rx = c.entry.toApp.delivered ++ c.sock.rx

namespace Keeps

variable {c c' c'' : Conn}

lemma refl (c : Conn) : Keeps c c := ⟨rfl, rfl, rfl, rfl, rfl, rfl⟩

lemma trans (hFirst : Keeps c c') (hSecond : Keeps c' c'') : Keeps c c'' where
  handle := hSecond.handle.trans hFirst.handle
  label := hSecond.label.trans hFirst.label
  owner := hSecond.owner.trans hFirst.owner
  upload := hSecond.upload.trans hFirst.upload
  received := hSecond.received.trans hFirst.received
  download := hSecond.download.trans hFirst.download

end Keeps

variable (c : Conn)

lemma keeps_close : Keeps c c.close := ⟨rfl, rfl, rfl, rfl, rfl, rfl⟩

lemma keeps_announce (taken : Bool) : Keeps c (c.announce taken) := by
  unfold announce
  split
  · constructor
    · rfl
    · simp only [setEntry, TcpState.announce]
      split
      all_goals rfl
    · rfl
    · rfl
    · rfl
    · simp only [setEntry, TcpState.announce]
      split
      all_goals rfl
  · exact .refl c

lemma keeps_upload (offered : Nat) : Keeps c (c.upload offered) := by
  unfold upload
  split
  · refine ⟨rfl, rfl, rfl, ?_, rfl, rfl⟩
    simp [TcpSocket.accept, TcpState.setPending]
  · exact .refl c

lemma keeps_endUpload : Keeps c c.endUpload := by
  unfold endUpload
  split
  · exact c.keeps_close
  · exact .refl c

lemma keeps_uploaded (visit : Visit) : Keeps c (c.uploaded visit) :=
  ((c.keeps_announce _).trans (keeps_upload _ _)).trans (keeps_endUpload _)

lemma keeps_download (visit : Visit) : Keeps c (c.download visit) where
  handle := rfl
  label := (Channel.deliver_kept _ _ _ _).1
  owner := rfl
  upload := rfl
  received := rfl
  download := (Channel.deliver_kept _ _ _ _).2

lemma keeps_leave (stopped : Channel.Reservation) : Keeps c (c.leave stopped) := by
  unfold leave
  split
  · exact c.keeps_close
  · exact .refl c

lemma keeps_downloaded (visit : Visit) : Keeps c (c.downloaded visit) :=
  ((c.keeps_uploaded visit).trans (keeps_download _ _)).trans (keeps_leave _ _)

lemma keeps_closeWait : Keeps c c.closeWait := by
  unfold closeWait
  split
  · exact c.keeps_close
  · exact .refl c

lemma keeps_service (visit : Visit) : Keeps c (c.service visit).1 := by
  unfold service
  split
  · exact c.keeps_announce _
  · exact (c.keeps_downloaded visit).trans (keeps_closeWait _)

lemma keeps_acts (moves : List Channel.Move) : Keeps c (c.setEntry (c.entry.acts moves)) := by
  unfold TcpState.acts
  split
  · exact .refl c
  · refine ⟨rfl, ?_, rfl, rfl, rfl, ?_⟩
    · exact (Channel.acts_kept _ _).1
    · exact congrArg (· ++ c.sock.rx) (Channel.acts_kept _ _).2.1

end Conn

end Kourosh.Netstack
