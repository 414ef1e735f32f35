import Kourosh.Netstack.Handles

/-
  What an event does to the stack.

  The calls of the loop are cut open here once.
-/

-- Effects

namespace Kourosh.Netstack

open Option

/- `handle_data` for the connection of an id. -/
def Conn.handle (c : Conn) (id : Nat) : DataIn → Conn
| .tcp i data =>
  if i = id then c.setEntry (c.entry.setPending (c.entry.pending ++ data))
  else c
| .tcpClose i => if i = id then c.setEntry c.entry.setHalfClosed else c
| .udp _ _ _ => c
| .udpClose _ => c

/- `handle_data` for the UDP connection of an id. -/
def UdpConn.handle (c : UdpConn) (id : Nat) (sent : Bool) : DataIn → UdpConn
| .udp i dst data => if i = id then c.send sent (dst, data) else c
| .udpClose _ => c
| .tcp _ _ => c
| .tcpClose _ => c

lemma UdpConn.handle_of_ne {msg : DataIn}
  {id : Nat} (hId : msg.id ≠ id) (c : UdpConn) (sent : Bool) : c.handle id sent msg = c := by
  cases msg with
  | udp => exact if_neg hId
  | udpClose | tcp | tcpClose => rfl

def Event.quiet : Event → Bool
| .data _ => false
| _ => true

def Event.opens : Event → Bool
| .cmd (.openTcp _) opening => opening.opened
| .cmd .openUdp opening => opening.opened
| .inbound _ opening => opening.opened
| _ => false

namespace NetStack

inductive Effect (p : Profile) (s : NetStack) : Event → NetStack → Prop
-- a phase, a port, an address, or nothing at all
| kept {e : Event} {s' : NetStack} (hQuiet : e.quiet = true) (hTables : s'.tables = s.tables)
  (hLog : s'.log = s.log) (hNextId : s'.nextId = s.nextId) (hData : s'.dataIn = s.dataIn) :
  Effect p s e s'
| queued {msg : DataIn} (hId : msg.id ∈ s.log.created) :
  Effect p s (.queue msg) (s.setDataIn (s.dataIn ++ [msg]))
| openedTcp {e : Event} {s₁ : NetStack} {slot : Nat} {state : State} {connectResp : Bool}
  (hBase : s₁ = s ∨ s₁ = s.allocPort) (hQuiet : e.quiet = true) (hOpens : e.opens = true)
  (hFree : s.tables.sockets.lookup slot = none) :
  Effect p s e (s₁.openTcp p slot state connectResp)
| openedUdp {e : Event} {slot : Nat} (hQuiet : e.quiet = true) (hOpens : e.opens = true)
  (hFree : s.tables.sockets.lookup slot = none) :
  Effect p s e (s.allocPort.openUdp p slot)
| tcp {sent : Bool} {id : Nat} {data : Bytes} {rest : List DataIn}
  (hData : s.dataIn = .tcp id data :: rest) :
  Effect p s (.data sent) (s.takeData (.tcp id data) rest (s.onTcpEntry id fun entry =>
    entry.setPending (entry.pending ++ data)))
| tcpClose {sent : Bool} {id : Nat} {rest : List DataIn} (hData : s.dataIn = .tcpClose id :: rest) :
  Effect p s (.data sent) (s.takeData (.tcpClose id) rest
    (s.onTcpEntry id TcpState.setHalfClosed))
-- a message for a UDP connection that is gone
| stray {sent : Bool} {msg : DataIn} {rest : List DataIn} (hData : s.dataIn = msg :: rest)
  (hTcp : ∀ (c : Conn) (j : Nat), c.handle j msg = c)
  (hGone : s.tables.udpConns.lookup msg.id = none) :
  Effect p s (.data sent) (s.takeData msg rest s.tables)
| udp {sent : Bool} {id : Nat} {dst : SocketAddr} {data : Bytes} {rest : List DataIn} {c : UdpConn}
  (hData : s.dataIn = .udp id dst data :: rest) (hConn : s.tables.udpConn id = some c) :
  Effect p s (.data sent) (s.takeData (.udp id dst data) rest
    (s.tables.putUdp id (c.send sent (dst, data))))
| udpClose {sent : Bool} {id : Nat} {rest : List DataIn} {c : UdpConn}
  (hData : s.dataIn = .udpClose id :: rest) (hConn : s.tables.udpConn id = some c) :
  Effect p s (.data sent) ((s.takeData (.udpClose id) rest s.tables).retireUdp id c)
| segment {slot : Nat} {state : State} {bytes : Bytes} {slices : List Bytes} {sock : TcpSocket}
  (hSock : s.tables.sockets.lookup slot = some (.tcp sock))
  (hSlices : slices.flatten = sock.rx.flatten ++ bytes) :
  Effect p s (.segment slot state bytes slices) (s.segment slot (sock.poll state bytes slices))
| datagram {slot : Nat} {d : Datagram} {sock : UdpSocket}
  (hSock : s.tables.sockets.lookup slot = some (.udp sock)) :
  Effect p s (.datagram slot d) (s.datagram slot sock d)
| visitedTcp {visit : Visit} {id : Nat} {todo : List Nat} {c : Conn}
  (hPhase : s.phase = .tcp (id :: todo)) (hConn : s.tables.conn id = some c)
  (hKeep : (c.service visit).2 = .keep) :
  Effect p s (.visitTcp visit) ((s.setPhase (.tcp todo)).setTables
    (s.tables.putTcp id (c.service visit).1))
| removedTcp {visit : Visit} {id : Nat} {todo : List Nat} {c : Conn}
  (hPhase : s.phase = .tcp (id :: todo)) (hConn : s.tables.conn id = some c)
  (hEnd : (c.service visit).2 ≠ .keep) :
  Effect p s (.visitTcp visit) ((s.setPhase (.tcp todo)).retire id (c.service visit).1)
| visitedUdp {turns : List (List Channel.Move)} {id : Nat} {todo : List Nat} {c : UdpConn}
  (hConn : s.tables.udpConn id = some c) :
  Effect p s (.visitUdp turns) ((s.setPhase (.udp todo)).setTables
    (s.tables.putUdp id (c.service turns)))
| actedTcp {id : Nat} {moves : List Channel.Move} :
  Effect p s (.appTcp id moves) (s.appTcp id moves)
| actedUdp {id : Nat} {moves : List Channel.Move} {entry : UdpState}
  (hEntry : s.tables.udpConns.lookup id = some entry) :
  Effect p s (.appUdp id moves) (s.setTables (s.tables.setUdpEntry id
    ⟨entry.handle, entry.toApp.acts moves⟩))

def Proceeds (p : Profile) (s : NetStack) (e : Event) (r : Except Panic NetStack) : Prop :=
  r = .error .address ∨ ∃ s', r = .ok s' ∧ Effect p s e s'

variable {p : Profile} {s s' : NetStack} {e : Event}

lemma Effect.proceeds (hEffect : Effect p s e s') : Proceeds p s e (.ok s') :=
  .inr ⟨s', rfl, hEffect⟩

-- Calls

variable {opening : Opening} {r : Except Panic NetStack}

lemma proceeds_handleCmd (hReady : s.ready opening) (cmd : Cmd) :
  Proceeds p s (.cmd cmd opening) (s.handleCmd p opening cmd) := by
  have hFree := free_of_ready hReady
  cases cmd with
  | openTcp dst =>
    simp only [handleCmd]
    split
    next hOpened =>
      exact Effect.proceeds (.openedTcp (.inr rfl) rfl hOpened hFree)
    · exact Effect.proceeds (.kept rfl rfl rfl rfl rfl)
  | openUdp =>
    simp only [handleCmd]
    split
    next hOpened =>
      exact Effect.proceeds (.openedUdp rfl hOpened hFree)
    · exact Effect.proceeds (.kept rfl rfl rfl rfl rfl)
  | setAddrs v4 v6 =>
    simp only [handleCmd]
    cases applyAddrs s.iface v4 v6 with
    | none => exact .inl rfl
    | some =>
      exact Effect.proceeds (.kept rfl rfl rfl rfl rfl)
  | enableAccept =>
    exact Effect.proceeds (.kept rfl rfl rfl rfl rfl)

lemma effect_inbound (hReady : s.ready opening) (pkt : Bytes) :
  Effect p s (.inbound pkt opening) (s.inbound p opening pkt) := by
  unfold inbound
  split
  next hOpens =>
    simp only [Bool.and_eq_true] at hOpens
    exact .openedTcp (.inl rfl) rfl hOpens.2 (free_of_ready hReady)
  · exact .kept rfl rfl rfl rfl rfl

lemma proceeds_handleData {msg : DataIn}
  {rest : List DataIn} (hCons : s.tables.Consistent) (hData : s.dataIn = msg :: rest)
  (sent : Bool) : Proceeds p s (.data sent) (s.handleData sent rest msg) := by
  cases msg with
  | tcp => exact (Effect.tcp hData).proceeds
  | tcpClose => exact (Effect.tcpClose hData).proceeds
  | udp id =>
    cases hEntry : s.tables.udpConns.lookup id with
    | none =>
      rw [handleData, hEntry]
      exact Effect.proceeds (.stray hData (fun _ _ => rfl) hEntry)
    | some =>
      rcases hCons.exists_udpConn hEntry with ⟨sock, hConn⟩
      rw [handleData_udp_of_conn hConn]
      exact (Effect.udp hData hConn).proceeds
  | udpClose id =>
    cases hEntry : s.tables.udpConns.lookup id with
    | none =>
      rw [handleData, hEntry]
      exact Effect.proceeds (.stray hData (fun _ _ => rfl) hEntry)
    | some =>
      rcases hCons.exists_udpConn hEntry with ⟨sock, hConn⟩
      rw [handleData_udpClose_of_conn hConn]
      exact (Effect.udpClose hData hConn).proceeds

lemma proceeds_visitTcp {id : Nat}
  {todo : List Nat} (hCons : s.tables.Consistent) (hPhase : s.phase = .tcp (id :: todo))
  (visit : Visit) : Proceeds p s (.visitTcp visit) (s.visitTcp visit id todo) := by
  cases hEntry : s.tables.tcpConns.lookup id with
  | none =>
    rw [visitTcp, hEntry]
    exact Effect.proceeds (.kept rfl rfl rfl rfl rfl)
  | some entry =>
    rcases hCons.exists_conn hEntry with ⟨sock, hConn⟩
    rw [visitTcp_of_conn hConn]
    apply Effect.proceeds
    by_cases hKeep : (Conn.service ⟨entry, sock⟩ visit).2 = .keep
    · rw [finishVisit_of_keep hKeep]
      exact .visitedTcp hPhase hConn hKeep
    · rw [finishVisit_of_end hKeep]
      exact .removedTcp hPhase hConn hKeep

lemma proceeds_visitUdp (hCons : s.tables.Consistent) (turns : List (List Channel.Move))
  (id : Nat) (todo : List Nat) : Proceeds p s (.visitUdp turns) (s.visitUdp turns id todo) := by
  cases hEntry : s.tables.udpConns.lookup id with
  | none =>
    rw [visitUdp, hEntry]
    exact Effect.proceeds (.kept rfl rfl rfl rfl rfl)
  | some =>
    rcases hCons.exists_udpConn hEntry with ⟨sock, hConn⟩
    rw [visitUdp_of_conn hConn]
    exact (Effect.visitedUdp hConn).proceeds

lemma effect_appUdp (id : Nat) (moves : List Channel.Move) :
  Effect p s (.appUdp id moves) (s.appUdp id moves) := by
  unfold appUdp
  cases hEntry : s.tables.udpConns.lookup id with
  | none => exact .kept rfl rfl rfl rfl rfl
  | some => exact .actedUdp hEntry

lemma proceeds_next
  (hCons : s.tables.Consistent) (hNext : s.next p e = some r) : Proceeds p s e r := by
  cases e with
  | cmd cmd =>
    rcases ite_none_right_eq_some.mp hNext with ⟨hReady, hResult⟩
    cases hResult
    exact proceeds_handleCmd hReady cmd
  | inbound pkt =>
    rcases ite_none_right_eq_some.mp hNext with ⟨hReady, hResult⟩
    cases hResult
    exact (effect_inbound hReady pkt).proceeds
  | queue =>
    rcases ite_none_right_eq_some.mp hNext with ⟨hId, hResult⟩
    cases hResult
    exact (Effect.queued hId).proceeds
  | data sent =>
    simp only [next] at hNext
    split at hNext
    next msg rest hPhase hData =>
      cases hNext
      exact proceeds_handleData hCons hData sent
    · cases hNext
  | segment slot state bytes slices =>
    simp only [next] at hNext
    split at hNext
    next sock hPhase hSock =>
      rcases ite_none_right_eq_some.mp hNext with ⟨hSlices, hResult⟩
      cases hResult
      have hLive := Tables.tcpSocket_eq_some_iff.mp hSock
      exact (Effect.segment hLive hSlices.1).proceeds
    · cases hNext
  | datagram slot d =>
    simp only [next] at hNext
    split at hNext
    next sock hPhase hSock =>
      cases hNext
      have hLive := Tables.udpSocket_eq_some_iff.mp hSock
      exact (Effect.datagram hLive).proceeds
    · cases hNext
  | beginTcp | beginUdp =>
    rcases ite_none_right_eq_some.mp hNext with ⟨_, hResult⟩
    cases hResult
    exact Effect.proceeds (.kept rfl rfl rfl rfl rfl)
  | visitTcp visit =>
    simp only [next] at hNext
    split at hNext
    next id todo hPhase =>
      cases hNext
      exact proceeds_visitTcp hCons hPhase visit
    · cases hNext
  | visitUdp turns =>
    simp only [next] at hNext
    split at hNext
    next id todo hPhase =>
      cases hNext
      exact proceeds_visitUdp hCons turns id todo
    · cases hNext
  | endWalk =>
    simp only [next] at hNext
    split at hNext
    · cases hNext
      exact Effect.proceeds (.kept rfl rfl rfl rfl rfl)
    · cases hNext
      exact Effect.proceeds (.kept rfl rfl rfl rfl rfl)
    · cases hNext
  | appTcp =>
    cases hNext
    exact Effect.actedTcp.proceeds
  | appUdp id moves =>
    cases hNext
    exact (effect_appUdp id moves).proceeds

lemma effect_of_next
  (hCons : s.tables.Consistent) (hNext : s.next p e = some (.ok s')) : Effect p s e s' := by
  rcases proceeds_next hCons hNext with hPanic | ⟨s₁, hSame, hEffect⟩
  · cases hPanic
  · cases hSame
    exact hEffect

-- Consistency

lemma consistent_of_effect
  (hCons : s.tables.Consistent) (hEffect : Effect p s e s') : s'.tables.Consistent := by
  cases hEffect with
  | kept _ hTables =>
    rw [hTables]
    exact hCons
  | queued | stray => exact hCons
  | openedTcp hBase _ _ hFree =>
    rcases hBase with rfl | rfl
    all_goals exact hCons.putTcp_free _ hFree
  | openedUdp _ _ hFree => exact hCons.putUdp_free _ hFree
  | tcp | tcpClose => exact consistent_onTcpEntry hCons _ fun _ => rfl
  | udp _ hConn | visitedUdp hConn => exact hCons.putUdp (Tables.udpConn_eq_some_iff.mp hConn).1 rfl
  | udpClose _ hConn => exact hCons.removeUdp (Tables.udpConn_eq_some_iff.mp hConn).1
  | segment hSock | datagram hSock => exact hCons.setSocket hSock rfl
  | @visitedTcp visit _ _ c _ hConn =>
    exact hCons.putTcp (Tables.conn_eq_some_iff.mp hConn).1 (Conn.keeps_service c visit).handle
  | @removedTcp visit _ _ c _ hConn =>
    have hRemoved := hCons.removeTcp (Tables.conn_eq_some_iff.mp hConn).1
    rw [← (Conn.keeps_service c visit).handle] at hRemoved
    exact hRemoved
  | actedTcp => exact consistent_onTcpEntry hCons _ fun entry => handle_acts entry _
  | actedUdp hEntry => exact hCons.setUdpEntry hEntry rfl

def GoesOn (r : Except Panic NetStack) : Prop := r = .error .address ∨
  ∃ s', r = .ok s' ∧ s'.tables.Consistent

lemma goesOn_next (hCons : s.tables.Consistent) (hNext : s.next p e = some r) : GoesOn r := by
  rcases proceeds_next hCons hNext with hPanic | ⟨s', hOk, hEffect⟩
  · exact .inl hPanic
  · exact .inr ⟨s', hOk, consistent_of_effect hCons hEffect⟩

lemma consistent_of_next
  (hCons : s.tables.Consistent) (hNext : s.next p e = some (.ok s')) : s'.tables.Consistent :=
  consistent_of_effect hCons (effect_of_next hCons hNext)

-- Settings

def Settled (s : NetStack) : Except Panic NetStack → Prop
| .ok s' => s'.iface = s.iface ∧ s'.nextPort = s.nextPort
| .error cause => cause = .handle

section

variable (s : NetStack)

lemma settled_handleData (sent : Bool) (rest : List DataIn) (msg : DataIn) :
  Settled s (s.handleData sent rest msg) := by
  cases msg with
  | tcp | tcpClose => exact ⟨rfl, rfl⟩
  | udp =>
    simp only [handleData]
    split
    · exact ⟨rfl, rfl⟩
    · split
      · rfl
      · exact ⟨rfl, rfl⟩
  | udpClose =>
    simp only [handleData]
    split
    · exact ⟨rfl, rfl⟩
    · split
      · rfl
      all_goals exact ⟨rfl, rfl⟩

lemma settled_finishVisit (id : Nat) (r : Conn × Verdict) :
  Settled s (.ok (s.finishVisit id r)) := by
  rcases r with ⟨c, verdict⟩
  cases verdict with
  | keep | refused | finished => exact ⟨rfl, rfl⟩

lemma settled_visitTcp (visit : Visit) (id : Nat) (todo : List Nat) :
  Settled s (s.visitTcp visit id todo) := by
  simp only [visitTcp]
  split
  · exact ⟨rfl, rfl⟩
  · split
    · rfl
    · exact settled_finishVisit (s.setPhase (.tcp todo)) id _

lemma settled_visitUdp (turns : List (List Channel.Move)) (id : Nat)
  (todo : List Nat) : Settled s (s.visitUdp turns id todo) := by
  simp only [visitUdp]
  split
  · exact ⟨rfl, rfl⟩
  · split
    · split
      · rfl
      · exact ⟨rfl, rfl⟩
    · exact ⟨rfl, rfl⟩

end

lemma settled_of_next (hNext : s.next p e = some r) (hOther : ∀ cmd opening, e ≠ .cmd cmd opening) :
  Settled s r := by
  cases e with
  | cmd cmd opening => exact absurd rfl (hOther cmd opening)
  | inbound =>
    rcases ite_none_right_eq_some.mp hNext with ⟨_, hResult⟩
    cases hResult
    simp only [inbound]
    split
    all_goals exact ⟨rfl, rfl⟩
  | queue | beginTcp | beginUdp =>
    rcases ite_none_right_eq_some.mp hNext with ⟨_, hResult⟩
    cases hResult
    exact ⟨rfl, rfl⟩
  | data =>
    simp only [next] at hNext
    split at hNext
    · cases hNext
      apply settled_handleData
    · cases hNext
  | segment =>
    simp only [next] at hNext
    split at hNext
    · rcases ite_none_right_eq_some.mp hNext with ⟨_, hResult⟩
      cases hResult
      exact ⟨rfl, rfl⟩
    · cases hNext
  | datagram =>
    simp only [next] at hNext
    split at hNext
    · cases hNext
      exact ⟨rfl, rfl⟩
    · cases hNext
  | visitTcp =>
    simp only [next] at hNext
    split at hNext
    · cases hNext
      apply settled_visitTcp
    · cases hNext
  | visitUdp =>
    simp only [next] at hNext
    split at hNext
    · cases hNext
      apply settled_visitUdp
    · cases hNext
  | endWalk =>
    simp only [next] at hNext
    split at hNext
    · cases hNext
      exact ⟨rfl, rfl⟩
    · cases hNext
      exact ⟨rfl, rfl⟩
    · cases hNext
  | appTcp =>
    cases hNext
    exact ⟨rfl, rfl⟩
  | appUdp =>
    cases hNext
    simp only [appUdp]
    split
    all_goals exact ⟨rfl, rfl⟩

end NetStack

end Kourosh.Netstack
