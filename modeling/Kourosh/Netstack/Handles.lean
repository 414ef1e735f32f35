import Kourosh.Lib.Slots
import Kourosh.Netstack.Stack

/-
  The handles of the two tables.

  The entries of `tcp_conns` and `udp_conns` are the holders of the slots of the socket set.
-/

-- Slots Of The Tables

namespace Kourosh.Netstack

open Function
open Option

inductive Key where
  | tcp (id : Nat)
  | udp (id : Nat)
deriving DecidableEq

inductive Kind where
  | tcp
  | udp

def Key.kind : Key → Kind
| .tcp _ => .tcp
| .udp _ => .udp

def Socket.kind : Socket → Kind
| .tcp _ => .tcp
| .udp _ => .udp

namespace Tables

variable {t : Tables}

def handle (t : Tables) : Key → Option Nat
| .tcp id => (t.tcpConns.lookup id).map TcpState.handle
| .udp id => (t.udpConns.lookup id).map UdpState.handle

def slots (t : Tables) : Slots Key Kind where
  handle := t.handle
  kind := fun slot => (t.sockets.lookup slot).map Socket.kind

def Consistent (t : Tables) : Prop := t.slots.WellFormed Key.kind

variable {id slot : Nat} {entry' : TcpState}

attribute [local simp] handle update putTcp putUdp removeTcp removeUdp slots

lemma handle_tcp {entry : TcpState} (hEntry : t.tcpConns.lookup id = some entry) :
  t.slots.handle (.tcp id) = some entry.handle := by simp [hEntry]

lemma handle_udp {entry : UdpState} (hEntry : t.udpConns.lookup id = some entry) :
  t.slots.handle (.udp id) = some entry.handle := by simp [hEntry]

lemma tcpSocket_eq_some_iff {sock : TcpSocket} :
  t.tcpSocket slot = some sock ↔ t.sockets.lookup slot = some (.tcp sock) := by
  unfold tcpSocket
  cases t.sockets.lookup slot with
  | none => simp
  | some other =>
    cases other with
    | tcp | udp => simp

lemma udpSocket_eq_some_iff {sock : UdpSocket} :
  t.udpSocket slot = some sock ↔ t.sockets.lookup slot = some (.udp sock) := by
  unfold udpSocket
  cases t.sockets.lookup slot with
  | none => simp
  | some other =>
    cases other with
    | tcp | udp => simp

lemma conn_eq_some_iff {c : Conn} : t.conn id = some c ↔
  t.tcpConns.lookup id = some c.entry ∧ t.sockets.lookup c.entry.handle = some (.tcp c.sock) := by
  unfold conn
  cases hEntry : t.tcpConns.lookup id with
  | none => simp
  | some =>
    simp only [bind_some, map_eq_some_iff, tcpSocket_eq_some_iff, some.injEq]
    constructor
    · rintro ⟨sock, hSock, rfl⟩
      exact ⟨rfl, hSock⟩
    · rintro ⟨rfl, hSock⟩
      exact ⟨c.sock, hSock, rfl⟩

lemma udpConn_eq_some_iff {c : UdpConn} : t.udpConn id = some c ↔
  t.udpConns.lookup id = some c.entry ∧ t.sockets.lookup c.entry.handle = some (.udp c.sock) := by
  unfold udpConn
  cases hEntry : t.udpConns.lookup id with
  | none => simp
  | some =>
    simp only [bind_some, map_eq_some_iff, udpSocket_eq_some_iff, some.injEq]
    constructor
    · rintro ⟨sock, hSock, rfl⟩
      exact ⟨rfl, hSock⟩
    · rintro ⟨rfl, hSock⟩
      exact ⟨c.sock, hSock, rfl⟩

-- Writes

section

variable (t : Tables)

lemma slots_putTcp (id : Nat) (c : Conn) :
  (t.putTcp id c).slots = t.slots.put Key.kind (.tcp id) c.entry.handle := by
  simp only [slots, Slots.put, Slots.mk.injEq]
  constructor
  · funext key
    cases key with
    | tcp id' =>
      by_cases hId : id' = id
      · subst hId
        simp
      · simp [hId]
    | udp => simp
  · funext slot
    by_cases hSlot : slot = c.entry.handle
    · subst hSlot
      simp [Socket.kind, Key.kind]
    · simp [hSlot]

lemma slots_putUdp (id : Nat) (c : UdpConn) :
  (t.putUdp id c).slots = t.slots.put Key.kind (.udp id) c.entry.handle := by
  simp only [slots, Slots.put, Slots.mk.injEq]
  constructor
  · funext key
    cases key with
    | udp id' =>
      by_cases hId : id' = id
      · subst hId
        simp
      · simp [hId]
    | tcp => simp
  · funext slot
    by_cases hSlot : slot = c.entry.handle
    · subst hSlot
      simp [Socket.kind, Key.kind]
    · simp [hSlot]

lemma slots_removeTcp (id slot : Nat) :
  (t.removeTcp id slot).slots = t.slots.remove (.tcp id) slot := by
  simp only [slots, Slots.remove, Slots.mk.injEq]
  constructor
  · funext key
    cases key with
    | tcp id' =>
      by_cases hId : id' = id
      · subst hId
        simp
      · simp [hId]
    | udp => simp
  · funext slot'
    by_cases hSlot : slot' = slot
    · subst hSlot
      simp
    · simp [hSlot]

lemma slots_removeUdp (id slot : Nat) :
  (t.removeUdp id slot).slots = t.slots.remove (.udp id) slot := by
  simp only [slots, Slots.remove, Slots.mk.injEq]
  constructor
  · funext key
    cases key with
    | udp id' =>
      by_cases hId : id' = id
      · subst hId
        simp
      · simp [hId]
    | tcp => simp
  · funext slot'
    by_cases hSlot : slot' = slot
    · subst hSlot
      simp
    · simp [hSlot]

end

lemma slots_setTcpEntry {entry : TcpState} (hEntry : t.tcpConns.lookup id = some entry)
  (hHandle : entry'.handle = entry.handle) : (t.setTcpEntry id entry').slots = t.slots := by
  simp only [slots, setTcpEntry, Slots.mk.injEq, and_true]
  funext key
  cases key with
  | tcp id' =>
    by_cases hId : id' = id
    · subst hId
      simp [hEntry, hHandle]
    · simp [hId]
  | udp => rfl

lemma slots_setUdpEntry {entry entry' : UdpState} (hEntry : t.udpConns.lookup id = some entry)
  (hHandle : entry'.handle = entry.handle) : (t.setUdpEntry id entry').slots = t.slots := by
  simp only [slots, setUdpEntry, Slots.mk.injEq, and_true]
  funext key
  cases key with
  | udp id' =>
    by_cases hId : id' = id
    · subst hId
      simp [hEntry, hHandle]
    · simp [hId]
  | tcp => rfl

lemma slots_setSocket {sock sock' : Socket} (hSock : t.sockets.lookup slot = some sock)
  (hKind : sock'.kind = sock.kind) : (t.setSocket slot sock').slots = t.slots := by
  simp only [slots, setSocket, Slots.mk.injEq]
  constructor
  · funext key
    cases key <;> rfl
  · funext slot'
    by_cases hSlot : slot' = slot
    · subst hSlot
      simp [hSock, hKind]
    · simp [hSlot]

-- Consistent Tables

namespace Consistent

variable {entry : TcpState} {c : Conn}

variable (hCons : t.Consistent)

include hCons

/- Every entry of `tcp_conns` has its TCP socket. -/
lemma exists_conn
  (hEntry : t.tcpConns.lookup id = some entry) : ∃ sock, t.conn id = some ⟨entry, sock⟩ := by
  have hLive := hCons.live (handle_tcp hEntry)
  rcases map_eq_some_iff.mp hLive with ⟨sock, hSock, hKind⟩
  cases sock with
  | tcp sock => exact ⟨sock, conn_eq_some_iff.mpr ⟨hEntry, hSock⟩⟩
  | udp => cases hKind

lemma exists_udpConn {entry : UdpState}
  (hEntry : t.udpConns.lookup id = some entry) : ∃ sock, t.udpConn id = some ⟨entry, sock⟩ := by
  have hLive := hCons.live (handle_udp hEntry)
  rcases map_eq_some_iff.mp hLive with ⟨sock, hSock, hKind⟩
  cases sock with
  | udp sock => exact ⟨sock, udpConn_eq_some_iff.mpr ⟨hEntry, hSock⟩⟩
  | tcp => cases hKind

lemma putTcp_free
  (id : Nat) (hFree : t.sockets.lookup c.entry.handle = none) : (t.putTcp id c).Consistent := by
  rw [Consistent, slots_putTcp]
  exact hCons.put_free (by simp [hFree])

lemma putUdp_free (id : Nat) {c : UdpConn}
  (hFree : t.sockets.lookup c.entry.handle = none) : (t.putUdp id c).Consistent := by
  rw [Consistent, slots_putUdp]
  exact hCons.put_free (by simp [hFree])

lemma putTcp (hEntry : t.tcpConns.lookup id = some entry)
  (hHandle : c.entry.handle = entry.handle) : (t.putTcp id c).Consistent := by
  rw [Consistent, slots_putTcp, hHandle]
  exact hCons.put_same (handle_tcp hEntry)

lemma putUdp {entry : UdpState} {c : UdpConn} (hEntry : t.udpConns.lookup id = some entry)
  (hHandle : c.entry.handle = entry.handle) : (t.putUdp id c).Consistent := by
  rw [Consistent, slots_putUdp, hHandle]
  exact hCons.put_same (handle_udp hEntry)

lemma removeTcp
  (hEntry : t.tcpConns.lookup id = some entry) : (t.removeTcp id entry.handle).Consistent := by
  rw [Consistent, slots_removeTcp]
  exact hCons.remove (handle_tcp hEntry)

lemma removeUdp {entry : UdpState}
  (hEntry : t.udpConns.lookup id = some entry) : (t.removeUdp id entry.handle).Consistent := by
  rw [Consistent, slots_removeUdp]
  exact hCons.remove (handle_udp hEntry)

lemma setTcpEntry (hEntry : t.tcpConns.lookup id = some entry)
  (hHandle : entry'.handle = entry.handle) : (t.setTcpEntry id entry').Consistent := by
  rw [Consistent, slots_setTcpEntry hEntry hHandle]
  exact hCons

lemma setUdpEntry {entry entry' : UdpState} (hEntry : t.udpConns.lookup id = some entry)
  (hHandle : entry'.handle = entry.handle) : (t.setUdpEntry id entry').Consistent := by
  rw [Consistent, slots_setUdpEntry hEntry hHandle]
  exact hCons

lemma setSocket {sock sock' : Socket} (hSock : t.sockets.lookup slot = some sock)
  (hKind : sock'.kind = sock.kind) : (t.setSocket slot sock').Consistent := by
  rw [Consistent, slots_setSocket hSock hKind]
  exact hCons

end Consistent

lemma consistent_empty : Tables.empty.Consistent where
  live := by
    intro key slot hHandle
    cases key <;> simp [empty] at hHandle
  distinct := by
    intro key key' slot hHandle
    cases key <;> simp [empty] at hHandle

end Tables

-- Calls

namespace NetStack

variable {s : NetStack}

lemma consistent_onTcpEntry (hCons : s.tables.Consistent) (id : Nat) {f : TcpState → TcpState}
  (hKeeps : ∀ entry, (f entry).handle = entry.handle) : (s.onTcpEntry id f).Consistent := by
  unfold onTcpEntry
  cases hEntry : s.tables.tcpConns.lookup id with
  | none => exact hCons
  | some entry => exact hCons.setTcpEntry hEntry (hKeeps entry)

lemma handle_acts (entry : TcpState) (moves : List Channel.Move) :
  (entry.acts moves).handle = entry.handle := by
  unfold TcpState.acts
  split
  all_goals rfl

lemma free_of_ready {opening : Opening} (hReady : s.ready opening) :
  s.tables.sockets.lookup opening.slot = none := by
  simp only [ready, Bool.and_eq_true, isNone_iff_eq_none] at hReady
  exact hReady.2

variable {id : Nat} {c : UdpConn} {result : Conn × Verdict}

lemma visitTcp_of_conn
  {c : Conn} (hConn : s.tables.conn id = some c) (visit : Visit) (todo : List Nat) :
  s.visitTcp visit id todo = .ok ((s.setPhase (.tcp todo)).finishVisit id (c.service visit)) := by
  rcases Tables.conn_eq_some_iff.mp hConn with ⟨hEntry, hSock⟩
  rw [visitTcp, hEntry]
  simp only [Tables.tcpSocket_eq_some_iff.mpr hSock]

section

variable (hConn : s.tables.udpConn id = some c)

include hConn

lemma visitUdp_of_conn
  (turns : List (List Channel.Move)) (todo : List Nat) : s.visitUdp turns id todo =
  .ok ((s.setPhase (.udp todo)).setTables (s.tables.putUdp id (c.service turns))) := by
  rcases Tables.udpConn_eq_some_iff.mp hConn with ⟨hEntry, hSock⟩
  rw [visitUdp, hEntry]
  simp only [Tables.udpSocket_eq_some_iff.mpr hSock]

variable (sent : Bool) (rest : List DataIn)

lemma handleData_udp_of_conn
  (dst : SocketAddr) (data : Bytes) : s.handleData sent rest (.udp id dst data) =
  .ok (s.takeData (.udp id dst data) rest (s.tables.putUdp id (c.send sent (dst, data)))) := by
  rcases Tables.udpConn_eq_some_iff.mp hConn with ⟨hEntry, hSock⟩
  rw [handleData, hEntry]
  simp only [Tables.udpSocket_eq_some_iff.mpr hSock]

lemma handleData_udpClose_of_conn : s.handleData sent rest (.udpClose id) =
  .ok ((s.takeData (.udpClose id) rest s.tables).retireUdp id c) := by
  rcases Tables.udpConn_eq_some_iff.mp hConn with ⟨hEntry, hSock⟩
  rw [handleData, hEntry]
  simp only [hSock]

end

lemma finishVisit_of_keep (hKeep : result.2 = .keep) :
  s.finishVisit id result = s.setTables (s.tables.putTcp id result.1) := by
  rcases result with ⟨c, verdict⟩
  cases hKeep
  rfl

lemma finishVisit_of_end (hEnd : result.2 ≠ .keep) :
  s.finishVisit id result = s.retire id result.1 := by
  rcases result with ⟨c, verdict⟩
  cases verdict with
  | keep => exact absurd rfl hEnd
  | refused | finished => rfl

end NetStack

end Kourosh.Netstack
