import Kourosh.Netstack.Effect

/-
  The local ports of the sockets that commands open.

  `alloc_port` goes round without a look at the sockets.

  Correctness is proven by:
    * `ports_are_unique`
-/

namespace Kourosh.Netstack

open Function NetStack Tables

def portSpan : Nat := 65000 - 49152 + 1

/- The calls of `alloc_port`, and for every slot the call and the port of its last socket. -/
structure Ports where
  calls : Nat
  chosen : Nat → Option (Nat × UInt16)

namespace Ports

def take (x : Ports) (opening : Opening) (port : UInt16) : Ports where
  calls := x.calls + 1
  chosen :=
    if opening.opened then update x.chosen opening.slot (some (x.calls, port))
    else x.chosen

def next (x : Ports) (s : NetStack) : Event → Ports
| .cmd (.openTcp _) opening => x.take opening s.nextPort
| .cmd .openUdp opening => x.take opening s.nextPort
-- a listener has the port its peer asks for
| .inbound _ opening => ⟨x.calls, update x.chosen opening.slot none⟩
| _ => x

end Ports

def Event.asks : Event → Option Kind
| .cmd (.openTcp _) opening => if opening.opened then some .tcp else none
| .cmd .openUdp opening => if opening.opened then some .udp else none
| _ => none

def NetStack.live (s : NetStack) (slot : Nat) : Option Kind := s.tables.slots.kind slot

/- Every event of the run fulfils `Guard`. -/
inductive Counted (p : Profile) (iface : Interface) (Guard : NetStack → Ports → Event → Prop) :
  NetStack → Ports → Prop where
  | start : Counted p iface Guard (.fresh iface) ⟨0, fun _ => none⟩
  | step {s s' : NetStack} {x : Ports} {e : Event} (hCounted : Counted p iface Guard s x)
    (hGuard : Guard s x e) (hNext : s.next p e = some (.ok s')) :
    Counted p iface Guard s' (x.next s e)

def Timely (s : NetStack) (x : Ports) (e : Event) : Prop :=
  ∀ kind slot call port, e.asks = some kind → s.live slot = some kind →
    x.chosen slot = some (call, port) → x.calls < call + portSpan

def Unique (s : NetStack) (x : Ports) : Prop :=
  ∀ kind i j m n port, s.live i = some kind → s.live j = some kind →
    x.chosen i = some (m, port) → x.chosen j = some (n, port) → i = j

structure Numbered (s : NetStack) (x : Ports) : Prop where
  consistent : s.tables.Consistent
  nextPort : s.nextPort.toNat = 49152 + x.calls % portSpan
  chosen : ∀ slot n port, x.chosen slot = some (n, port) →
    n < x.calls ∧ port.toNat = 49152 + n % portSpan

-- Steps

variable {p : Profile} {s s' : NetStack} {x : Ports} {e : Event} {slot : Nat} {kind : Kind}
variable {opening : Opening} {t : Tables}

section

variable {t : Slots Key Kind} {key : Key} {handle : Nat}

lemma live_of_put (hLive : (t.put Key.kind key handle).kind slot = some kind) :
  slot = handle ∧ kind = key.kind ∨ slot ≠ handle ∧ t.kind slot = some kind := by
  by_cases hSlot : slot = handle
  · refine .inl ⟨hSlot, ?_⟩
    simpa [Slots.put, hSlot, eq_comm] using hLive
  · exact .inr ⟨hSlot, by simpa [Slots.put, hSlot] using hLive⟩

lemma live_put (hKind : t.kind handle = some key.kind)
  (hLive : (t.put Key.kind key handle).kind slot = some kind) : t.kind slot = some kind := by
  rcases live_of_put hLive with ⟨rfl, rfl⟩ | ⟨-, hOld⟩
  · exact hKind
  · exact hOld

lemma live_remove
  (hLive : (t.remove key handle).kind slot = some kind) : t.kind slot = some kind := by
  by_cases hSlot : slot = handle
  · simp [Slots.remove, hSlot] at hLive
  · simpa [Slots.remove, hSlot] using hLive

end

lemma live_setSocket {handle : Nat} {sock sock' : Socket}
  (hSock : t.sockets.lookup handle = some sock)
  (hLive : (t.setSocket handle sock').slots.kind slot = some kind)
  (hKind : sock'.kind = sock.kind) : t.slots.kind slot = some kind := by
  rwa [slots_setSocket hSock hKind] at hLive

lemma kind_of_conn {id : Nat} {c : Conn} (hConn : t.conn id = some c) :
  t.slots.kind c.entry.handle = some .tcp := by
  rcases conn_eq_some_iff.mp hConn with ⟨-, hSock⟩
  simp [slots, hSock, Socket.kind]

lemma kind_of_udpConn {id : Nat} {c : UdpConn} (hConn : t.udpConn id = some c) :
  t.slots.kind c.entry.handle = some .udp := by
  rcases udpConn_eq_some_iff.mp hConn with ⟨-, hSock⟩
  simp [slots, hSock, Socket.kind]

lemma slots_kind_onTcpEntry (id : Nat) (f : TcpState → TcpState) :
  (s.onTcpEntry id f).slots.kind = s.tables.slots.kind := by
  unfold onTcpEntry
  split
  all_goals rfl

/- Without an opening no socket comes to life. -/
lemma live_of_effect (hEffect : NetStack.Effect p s e s') (hOpens : e.opens = false)
  (hLive : s'.live slot = some kind) : s.live slot = some kind := by
  unfold live at hLive ⊢
  cases hEffect with
  | kept _ hTables => rwa [← hTables]
  | queued | stray => exact hLive
  | openedTcp _ _ hSome | openedUdp _ hSome => rw [hOpens] at hSome; cases hSome
  | tcp | tcpClose | actedTcp => exact slots_kind_onTcpEntry (s := s) _ _ ▸ hLive
  | udp _ hConn | visitedUdp hConn =>
    erw [slots_putUdp] at hLive
    exact live_put (kind_of_udpConn hConn) hLive
  | udpClose _ hConn =>
    erw [slots_removeUdp] at hLive
    exact live_remove hLive
  | segment hSock | datagram hSock => exact live_setSocket hSock hLive rfl
  | @visitedTcp visit _ _ c _ hConn =>
    erw [slots_putTcp] at hLive
    refine live_put ?_ hLive
    rw [(Conn.keeps_service c visit).handle]
    exact kind_of_conn hConn
  | removedTcp =>
    erw [slots_removeTcp] at hLive
    exact live_remove hLive
  | actedUdp => exact hLive

attribute [local simp] Ports.next

lemma live_of_next (hCons : s.tables.Consistent) (hNext : s.next p e = some (.ok s'))
  (hLive : s'.live slot = some kind) (x : Ports) :
  (s.live slot = some kind ∧ (x.next s e).chosen slot = x.chosen slot) ∨
  (x.next s e).chosen slot = none ∨ (e.asks = some kind ∧
    (x.next s e).chosen = update x.chosen slot (some (x.calls, s.nextPort))) := by
  have hEffect := effect_of_next hCons hNext
  cases e with
  | cmd cmd opening =>
    cases cmd with
    | openTcp | openUdp =>
      rcases Option.ite_none_right_eq_some.mp hNext with ⟨_, hResult⟩
      simp only [handleCmd] at hResult
      split at hResult
      next hOpened =>
        cases hResult
        unfold live at hLive
        first
          | erw [slots_putTcp] at hLive
          | erw [slots_putUdp] at hLive
        rcases live_of_put hLive with ⟨rfl, rfl⟩ | ⟨hNe, hOld⟩
        · exact .inr (.inr ⟨if_pos hOpened, if_pos hOpened⟩)
        · refine .inl ⟨hOld, ?_⟩
          simp only [Ports.next, Ports.take, hOpened, if_true]
          exact update_of_ne hNe ..
      next hOpened =>
        cases hResult
        exact .inl ⟨hLive, by simp [Ports.take, hOpened]⟩
    | setAddrs | enableAccept => exact .inl ⟨live_of_effect hEffect rfl hLive, rfl⟩
  | inbound pkt opening =>
    by_cases hSlot : slot = opening.slot
    · exact .inr (.inl (by simp [hSlot]))
    · rcases Option.ite_none_right_eq_some.mp hNext with ⟨_, hResult⟩
      cases hResult
      refine .inl ⟨?_, update_of_ne hSlot ..⟩
      unfold inbound at hLive
      split at hLive
      next =>
        unfold live at hLive
        erw [slots_putTcp] at hLive
        rcases live_of_put hLive with ⟨hSame, -⟩ | ⟨-, hOld⟩
        · exact absurd hSame hSlot
        · exact hOld
      next => exact hLive
  | _ => exact .inl ⟨live_of_effect hEffect rfl hLive, rfl⟩

lemma toNat_allocPort {n : Nat} (hPort : s.nextPort.toNat = 49152 + n % portSpan) :
  s.allocPort.nextPort.toNat = 49152 + (n + 1) % portSpan := by
  simp only [portSpan] at hPort ⊢
  simp only [allocPort, ge_iff_le, UInt16.le_iff_toNat_le]
  split
  next hLast =>
    have hLarge : 65000 ≤ s.nextPort.toNat := hLast
    have hFirst : (49152 : UInt16).toNat = 49152 := rfl
    omega
  next hLast =>
    have hSmall : ¬ 65000 ≤ s.nextPort.toNat := hLast
    rw [UInt16.toNat_add]
    have hOne : (1 : UInt16).toNat = 1 := rfl
    omega

section

variable (hNum : Numbered s x)

include hNum

lemma Numbered.take (opening : Opening) (slot n : Nat) (port : UInt16)
  (hAt : (x.take opening s.nextPort).chosen slot = some (n, port)) :
  n < x.calls + 1 ∧ port.toNat = 49152 + n % portSpan := by
  simp only [Ports.take] at hAt
  split at hAt
  next =>
    by_cases hSlot : slot = opening.slot
    · rw [hSlot, update_self] at hAt
      cases hAt
      exact ⟨Nat.lt_succ_self _, hNum.nextPort⟩
    · rw [update_of_ne hSlot] at hAt
      exact (hNum.chosen slot n port hAt).imp_left Nat.lt_succ_of_lt
  next => exact (hNum.chosen slot n port hAt).imp_left Nat.lt_succ_of_lt

lemma Numbered.next (hNext : s.next p e = some (.ok s')) : Numbered s' (x.next s e) := by
  have hCons := consistent_of_next hNum.consistent hNext
  cases e with
  | cmd cmd opening =>
    rcases Option.ite_none_right_eq_some.mp hNext with ⟨_, hResult⟩
    cases cmd with
    | openTcp | openUdp =>
      refine ⟨hCons, ?_, hNum.take opening⟩
      simp only [handleCmd] at hResult
      split at hResult
      all_goals
        cases hResult
        exact toNat_allocPort hNum.nextPort
    | setAddrs =>
      simp only [handleCmd] at hResult
      split at hResult
      next =>
        cases hResult
        exact ⟨hCons, hNum.nextPort, hNum.chosen⟩
      next => cases hResult
    | enableAccept =>
      cases hResult
      exact ⟨hCons, hNum.nextPort, hNum.chosen⟩
  | inbound pkt opening =>
    refine ⟨hCons, (settled_of_next hNext (by simp)).2 ▸ hNum.nextPort, fun slot n port hAt => ?_⟩
    by_cases hSlot : slot = opening.slot
    · simp [hSlot] at hAt
    · exact hNum.chosen slot n port (by simpa [hSlot] using hAt)
  | _ => exact ⟨hCons, (settled_of_next hNext (by simp)).2 ▸ hNum.nextPort, hNum.chosen⟩

lemma Numbered.not_taken (hTimely : Timely s x e) (hAsks : e.asks = some kind)
  (hLive : s.live slot = some kind) {n : Nat} {port : UInt16}
  (hAt : x.chosen slot = some (n, port)) : port ≠ s.nextPort := by
  rintro rfl
  have hYoung := hTimely kind slot n _ hAsks hLive hAt
  rcases hNum.chosen slot n _ hAt with ⟨_, hPort⟩
  have hNext := hNum.nextPort
  simp only [portSpan] at hYoung hPort hNext
  omega

lemma Numbered.unique_next (hUnique : Unique s x) (hTimely : Timely s x e)
  (hNext : s.next p e = some (.ok s')) : Unique s' (x.next s e) := by
  intro kind i j m n port hLiveI hLiveJ hAtI hAtJ
  by_contra hNe
  rcases live_of_next hNum.consistent hNext hLiveI x with ⟨hI, hSameI⟩ | hNone | ⟨hAsks, hNew⟩
  · rw [hSameI] at hAtI
    rcases live_of_next hNum.consistent hNext hLiveJ x with ⟨hJ, hSameJ⟩ | hNone | ⟨hAsks, hNew⟩
    · exact hNe (hUnique kind i j m n port hI hJ hAtI (hSameJ ▸ hAtJ))
    · rw [hNone] at hAtJ
      cases hAtJ
    · rw [hNew, update_self] at hAtJ
      cases hAtJ
      exact hNum.not_taken hTimely hAsks hI hAtI rfl
  · rw [hNone] at hAtI
    cases hAtI
  · rw [hNew, update_self] at hAtI
    cases hAtI
    rw [hNew, update_of_ne (Ne.symm hNe)] at hAtJ
    rcases live_of_next hNum.consistent hNext hLiveJ x with ⟨hJ, -⟩ | hNone | ⟨-, hNewJ⟩
    · exact hNum.not_taken hTimely hAsks hJ hAtJ rfl
    · rw [hNew, update_of_ne (Ne.symm hNe), hAtJ] at hNone
      cases hNone
    · have hOld := congrFun (hNew.symm.trans hNewJ) j
      rw [update_of_ne (Ne.symm hNe), update_self, hAtJ] at hOld
      cases hOld
      exact absurd (hNum.chosen j _ _ hAtJ).1 (Nat.lt_irrefl _)

end

-- Runs

variable {iface : Interface} {Guard : NetStack → Ports → Event → Prop}

lemma Counted.numbered (hCounted : Counted p iface Guard s x) : Numbered s x := by
  induction hCounted with
  | start => exact ⟨consistent_empty, rfl, nofun⟩
  | step _ _ hNext ih => exact ih.next hNext

/-
  If no socket outlives a round of ports, the sockets of a protocol have ports of their own, and a
  port that is chosen is in no use.
-/
theorem ports_are_unique
    (hCounted : Counted p iface Timely s x) :
    Unique s x ∧
    ∀ e kind slot n port,
      Timely s x e →
      e.asks = some kind →
      s.live slot = some kind →
      x.chosen slot = some (n, port) →
      port ≠ s.nextPort := by
  refine ⟨?_, fun e kind slot n port hTimely hAsks hLive hAt =>
    hCounted.numbered.not_taken hTimely hAsks hLive hAt⟩
  induction hCounted with
  | start => exact nofun
  | step hCounted hTimely hNext ih => exact hCounted.numbered.unique_next ih hTimely hNext

def phone : Profile := ⟨.w64, .low⟩

def connect (opened : Bool) (slot : Nat) : Event :=
  .cmd (.openTcp ⟨.v4 ⟨1, 1, 1, 1⟩, 443⟩) ⟨opened, slot⟩

lemma Counted.connect (hCounted : Counted p iface Guard s x) (opened : Bool)
  (slot : Nat) (hGuard : Guard s x (connect opened slot)) (hIdle : s.phase = .idle)
  (hFree : s.tables.sockets.lookup slot = none) : Counted p iface Guard
    (if opened then s.allocPort.openTcp p slot .synSent true else s.allocPort)
    (x.take ⟨opened, slot⟩ s.nextPort) := by
  refine hCounted.step hGuard ?_
  simp only [Netstack.connect, next, ready, hIdle, hFree]
  cases opened with
  | true | false => rfl

theorem two_connections_have_two_ports : ∃ s x, Counted phone .new Timely s x ∧
  s.live 0 = some .tcp ∧ s.live 1 = some .tcp ∧ Unique s x := by
  have hFirst : Counted phone .new Timely _ _ := Counted.start.connect true 0 nofun rfl rfl
  have hBoth := hFirst.connect true 1 ?_ rfl rfl
  · exact ⟨_, _, hBoth, rfl, rfl, (ports_are_unique hBoth).1⟩
  · intro kind slot call port _ _ _
    exact Nat.lt_of_lt_of_le (by decide : 1 < portSpan) (Nat.le_add_left ..)

/- The first connection stays open while others fail. -/
lemma aged (n : Nat) : ∃ s x, Counted phone .new (fun _ _ _ => True) s x ∧ x.calls = n + 1 ∧
  x.chosen 0 = some (0, 49152) ∧ s.live 0 = some .tcp ∧ s.phase = .idle ∧
  s.tables.sockets.lookup 1 = none := by
  induction n with
  | zero => exact ⟨_, _, Counted.start.connect true 0 trivial rfl rfl, rfl, rfl, rfl, rfl, rfl⟩
  | succ n ih =>
    rcases ih with ⟨s, x, hCounted, hCalls, hChosen, hLive, hIdle, hFree⟩
    exact ⟨_, _, hCounted.connect false 1 trivial hIdle hFree, congrArg (· + 1) hCalls, hChosen,
      hLive, hIdle, hFree⟩

theorem port_is_shared_a_round_later : ∃ s x, Counted phone .new (fun _ _ _ => True) s x ∧
  s.live 0 = some .tcp ∧ s.live 1 = some .tcp ∧
  x.chosen 0 = some (0, 49152) ∧ x.chosen 1 = some (15849, 49152) := by
  rcases aged 15848 with ⟨s, x, hCounted, hCalls, hChosen, hLive, hIdle, hFree⟩
  have hPort : s.nextPort = 49152 := by
    apply UInt16.toNat_inj.mp
    rw [hCounted.numbered.nextPort, hCalls]
    decide
  refine ⟨_, _, hCounted.connect true 1 trivial hIdle hFree, ?_, ?_, hChosen, ?_⟩
  · unfold live
    erw [slots_putTcp]
    exact hLive
  · unfold live
    erw [slots_putTcp]
    rfl
  · rw [← hPort]
    simp [Ports.take, hCalls]

end Kourosh.Netstack
