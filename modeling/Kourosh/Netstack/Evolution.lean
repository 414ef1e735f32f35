import Kourosh.Netstack.Effect
import Kourosh.Netstack.Writes

/-
  Where the connections of a state come from.

  Every connection found behind an event was there before it or was opened by it, and only the
  event's own connection has changed.
-/

-- Origins

namespace Kourosh.Netstack.NetStack

open Tables

def newConn (s : NetStack) (p : Profile) (slot : Nat) (state : State)
  (connectResp : Bool) : Conn where
  entry := .new s.nextId slot p.channelCapacity connectResp
  sock := .new s.nextId state

def newUdpConn (s : NetStack) (p : Profile) (slot : Nat) : UdpConn where
  entry := ⟨slot, .empty s.nextId p.channelCapacity⟩
  sock := ⟨s.nextId, [], [], []⟩

inductive Origin (p : Profile) (s s' : NetStack) : Event → Nat → Conn → Prop
| kept {e : Event} {j : Nat} {d : Conn} (hQuiet : e.quiet = true)
  (hConn : s.tables.conn j = some d) :
  Origin p s s' e j d
| opened {e : Event} {slot : Nat} {state : State} {connectResp : Bool} (hQuiet : e.quiet = true)
  (hCreated : s'.log.created = s.log.created ++ [s.nextId]) :
  Origin p s s' e s.nextId (s.newConn p slot state connectResp)
| handled {sent : Bool} {msg : DataIn} {rest : List DataIn} {j : Nat} {c : Conn}
  (hData : s.dataIn = msg :: rest) (hConn : s.tables.conn j = some c) :
  Origin p s s' (.data sent) j (c.handle j msg)
| polled {slot : Nat} {state : State} {bytes : Bytes} {slices : List Bytes} {j : Nat} {c : Conn}
  (hConn : s.tables.conn j = some c) (hSlices : slices.flatten = c.sock.rx.flatten ++ bytes) :
  Origin p s s' (.segment slot state bytes slices) j (c.setSock (c.sock.poll state bytes slices))
| acted {moves : List Channel.Move} {j : Nat} {c : Conn} (hConn : s.tables.conn j = some c) :
  Origin p s s' (.appTcp j moves) j (c.setEntry (c.entry.acts moves))
| visited {visit : Visit} {j : Nat} {todo : List Nat} {c : Conn}
  (hPhase : s.phase = .tcp (j :: todo)) (hConn : s.tables.conn j = some c)
  (hKeep : (c.service visit).2 = .keep) :
  Origin p s s' (.visitTcp visit) j (c.service visit).1

inductive UdpOrigin (p : Profile) (s s' : NetStack) : Event → Nat → UdpConn → Prop
| kept {e : Event} {j : Nat} {d : UdpConn} (hQuiet : e.quiet = true)
  (hConn : s.tables.udpConn j = some d) :
  UdpOrigin p s s' e j d
| opened {e : Event} {slot : Nat} (hQuiet : e.quiet = true)
  (hCreated : s'.log.created = s.log.created ++ [s.nextId]) :
  UdpOrigin p s s' e s.nextId (s.newUdpConn p slot)
| handled {sent : Bool} {msg : DataIn} {rest : List DataIn} {j : Nat} {c : UdpConn}
  (hData : s.dataIn = msg :: rest) (hConn : s.tables.udpConn j = some c) :
  UdpOrigin p s s' (.data sent) j (c.handle j sent msg)
| polled {slot : Nat} {d : Datagram} {j : Nat} {c : UdpConn} (hConn : s.tables.udpConn j = some c) :
  UdpOrigin p s s' (.datagram slot d) j ⟨c.entry,
    ⟨c.sock.owner, c.sock.rx ++ [d], c.sock.received ++ [d], c.sock.sent⟩⟩
| acted {moves : List Channel.Move} {j : Nat} {c : UdpConn} (hConn : s.tables.udpConn j = some c) :
  UdpOrigin p s s' (.appUdp j moves) j ⟨⟨c.entry.handle, c.entry.toApp.acts moves⟩, c.sock⟩
| visited {turns : List (List Channel.Move)} {j : Nat} {c : UdpConn}
  (hConn : s.tables.udpConn j = some c) :
  UdpOrigin p s s' (.visitUdp turns) j (c.service turns)

-- Effects And TCP

variable {p : Profile} {s s' : NetStack} {e : Event} {j : Nat}

variable {id : Nat} {f : TcpState → TcpState} {d : Conn}

lemma conn_of_onTcpEntry (hConn : (s.onTcpEntry id f).conn j = some d)
  (hKeeps : ∀ entry, (f entry).handle = entry.handle) :
  ∃ c, s.tables.conn j = some c ∧ d = if id = j then c.setEntry (f c.entry) else c := by
  unfold onTcpEntry at hConn
  cases hEntry : s.tables.tcpConns.lookup id with
  | none =>
    rw [hEntry] at hConn
    refine ⟨d, hConn, ?_⟩
    have hKey : id ≠ j := by
      rintro rfl
      have hThere := (conn_eq_some_iff.mp hConn).1
      rw [hEntry] at hThere
      cases hThere
    rw [if_neg hKey]
  | some entry =>
    rw [hEntry] at hConn
    rcases conn_of_setTcpEntry hEntry hConn (hKeeps entry) with
      ⟨c, hKey, hOld, hSame, hNew⟩ | ⟨hKey, hOld⟩
    · subst hKey
      refine ⟨c, hOld, ?_⟩
      rw [if_pos rfl, hSame]
      exact hNew
    · refine ⟨d, hOld, ?_⟩
      rw [if_neg (Ne.symm hKey)]

lemma udpConn_of_onTcpEntry {d : UdpConn}
  (hConn : (s.onTcpEntry id f).udpConn j = some d) : s.tables.udpConn j = some d := by
  unfold onTcpEntry at hConn
  split at hConn
  all_goals exact hConn

lemma origin_of_effect (hCons : s.tables.Consistent)
  (hEffect : Effect p s e s') (hConn : s'.tables.conn j = some d) : Origin p s s' e j d := by
  have hCons' := consistent_of_effect hCons hEffect
  cases hEffect with
  | kept hQuiet hTables =>
    rw [hTables] at hConn
    exact .kept hQuiet hConn
  | queued | actedUdp => exact .kept rfl hConn
  | openedTcp hBase hQuiet =>
    rcases conn_of_putTcp hCons' hConn with ⟨hKey, hNew⟩ | ⟨hKey, hOld⟩
    · subst hKey
      subst hNew
      rcases hBase with rfl | rfl
      all_goals exact .opened hQuiet rfl
    · rcases hBase with rfl | rfl
      all_goals exact .kept hQuiet hOld
  | openedUdp hQuiet => exact .kept hQuiet (conn_of_udp hConn rfl rfl)
  | tcp hData | tcpClose hData =>
    rcases conn_of_onTcpEntry hConn (fun _ => rfl) with ⟨c, hOld, hNew⟩
    rw [hNew]
    exact .handled hData hOld
  | stray hData hTcp =>
    rw [← hTcp d j]
    exact .handled hData hConn
  | udp hData => exact .handled hData (conn_of_udp hConn rfl rfl)
  | udpClose hData => exact .handled hData (conn_of_removeUdp hConn)
  | segment hSock hSlices =>
    rcases conn_of_setSocket hSock hConn with ⟨c, hOld, hSame, hNew⟩ | hOld
    · subst hSame
      subst hNew
      exact .polled hOld hSlices
    · exact .kept rfl hOld
  | datagram => exact .kept rfl (conn_of_udp hConn rfl rfl)
  | visitedTcp hPhase hVisited hKeep =>
    rcases conn_of_putTcp hCons' hConn with ⟨hKey, hNew⟩ | ⟨hKey, hOld⟩
    · subst hKey
      subst hNew
      exact .visited hPhase hVisited hKeep
    · exact .kept rfl hOld
  | removedTcp => exact .kept rfl (conn_of_removeTcp hConn).2
  | visitedUdp => exact .kept rfl (conn_of_udp hConn rfl rfl)
  | @actedTcp id moves =>
    rcases conn_of_onTcpEntry hConn (fun entry => handle_acts entry moves) with ⟨c, hOld, hNew⟩
    subst hNew
    split
    next hKey =>
      subst hKey
      exact .acted hOld
    · exact .kept rfl hOld

lemma origin_of_next (hCons : s.tables.Consistent) (hNext : s.next p e = some (.ok s'))
  (hConn : s'.tables.conn j = some d) : Origin p s s' e j d :=
  origin_of_effect hCons (effect_of_next hCons hNext) hConn

-- Effects And UDP

variable {d : UdpConn} (hCons : s.tables.Consistent)

include hCons

lemma udpOrigin_of_effect (hEffect : Effect p s e s')
  (hConn : s'.tables.udpConn j = some d) : UdpOrigin p s s' e j d := by
  have hCons' := consistent_of_effect hCons hEffect
  cases hEffect with
  | kept hQuiet hTables =>
    rw [hTables] at hConn
    exact .kept hQuiet hConn
  | queued => exact .kept rfl hConn
  | openedTcp hBase hQuiet =>
    rcases hBase with rfl | rfl
    all_goals exact .kept hQuiet (udpConn_of_tcp hConn rfl rfl)
  | openedUdp hQuiet =>
    rcases udpConn_of_putUdp hCons' hConn with ⟨hKey, hNew⟩ | ⟨hKey, hOld⟩
    · subst hKey
      subst hNew
      exact .opened hQuiet rfl
    · exact .kept hQuiet hOld
  | tcp hData | tcpClose hData => exact .handled hData (udpConn_of_onTcpEntry hConn)
  | @stray sent msg _ hData _ hGone =>
    have hKey : msg.id ≠ j := by
      rintro rfl
      have hThere := (udpConn_eq_some_iff.mp hConn).1
      exact absurd (hGone.symm.trans hThere) nofun
    rw [← UdpConn.handle_of_ne hKey d sent]
    exact .handled hData hConn
  | @udp sent id dst data _ c hData hUdp =>
    rcases udpConn_of_putUdp hCons' hConn with ⟨hKey, hNew⟩ | ⟨hKey, hOld⟩
    · subst hKey
      have hHandled : d = c.handle j sent (.udp j dst data) := by
        rw [UdpConn.handle, if_pos rfl]
        exact hNew
      rw [hHandled]
      exact .handled hData hUdp
    · have hOther : DataIn.id (.udp id dst data) ≠ j := Ne.symm hKey
      rw [← UdpConn.handle_of_ne hOther d sent]
      exact .handled hData hOld
  | udpClose hData => exact .handled hData (udpConn_of_removeUdp hConn).2
  | segment => exact .kept rfl (udpConn_of_tcp hConn rfl rfl)
  | datagram hSock =>
    rcases udpConn_of_setSocket hSock hConn with ⟨c, hOld, hSame, hNew⟩ | hOld
    · subst hSame
      subst hNew
      exact .polled hOld
    · exact .kept rfl hOld
  | visitedTcp => exact .kept rfl (udpConn_of_tcp hConn rfl rfl)
  | removedTcp => exact .kept rfl (udpConn_of_removeTcp hConn)
  | visitedUdp hUdp =>
    rcases udpConn_of_putUdp hCons' hConn with ⟨hKey, hNew⟩ | ⟨hKey, hOld⟩
    · subst hKey
      subst hNew
      exact .visited hUdp
    · exact .kept rfl hOld
  | actedTcp => exact .kept rfl (udpConn_of_onTcpEntry hConn)
  | actedUdp hEntry =>
    rcases udpConn_of_setUdpEntry hEntry hConn rfl
      with ⟨c, hKey, hOld, hSame, hNew⟩ | ⟨hKey, hOld⟩
    · subst hKey
      subst hSame
      subst hNew
      exact .acted hOld
    · exact .kept rfl hOld

lemma udpOrigin_of_next (hNext : s.next p e = some (.ok s'))
  (hConn : s'.tables.udpConn j = some d) : UdpOrigin p s s' e j d :=
  udpOrigin_of_effect hCons (effect_of_next hCons hNext) hConn

end Kourosh.Netstack.NetStack
