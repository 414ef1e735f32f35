import Kourosh.Netstack.History
import Mathlib.Data.Nat.ModEq

/-
  Connections do not mix.

  The ids are the values of a counter that starts at one, so they are distinct until `usize` wraps
  round.

  Correctness is proven by:
    * `isolated_of_reaches`
-/

-- Ids

namespace Kourosh.Netstack

open Run NetStack
open List

/- The id of the connection that is opened as number `n`. -/
def idAt (p : Profile) (n : Nat) : Nat := p.width.cast (n + 1)

def idCount (p : Profile) : Nat := 2 ^ p.width.bits

def firstIds (p : Profile) (n : Nat) : List Nat := (List.range n).map (idAt p)

lemma firstIds_succ (p : Profile) (n : Nat) :
  firstIds p (n + 1) = firstIds p n ++ [idAt p n] := by simp [firstIds, range_succ]

variable {p : Profile} {n : Nat}

lemma idAt_inj {m : Nat} (hFirst : m < idCount p) (hSecond : n < idCount p)
  (hSame : idAt p m = idAt p n) : m = n := by
  have hMod : m ≡ n [MOD idCount p] := Nat.ModEq.add_right_cancel' 1 hSame
  have hEq : m % idCount p = n % idCount p := hMod
  rw [Nat.mod_eq_of_lt hFirst, Nat.mod_eq_of_lt hSecond] at hEq
  exact hEq

lemma nodup_firstIds (hCount : n ≤ idCount p) : (firstIds p n).Nodup := by
  apply List.Nodup.map_on
  · intro i hFirst k hSecond hSame
    have hLt₁ := mem_range.mp hFirst
    have hLt₂ := mem_range.mp hSecond
    exact idAt_inj (by omega) (by omega) hSame
  · exact nodup_range

lemma idAt_notMem_firstIds (hCount : n < idCount p) : idAt p n ∉ firstIds p n := by
  have hNodup := nodup_firstIds (p := p) hCount
  rw [firstIds_succ] at hNodup
  intro hMem
  have hNe := (nodup_append.mp hNodup).2.2 _ hMem (idAt p n)
  exact hNe (mem_singleton.mpr rfl) rfl

def NetStack.queued (s : NetStack) : List DataIn := s.log.handled ++ s.dataIn

structure NetStack.Named (p : Profile) (s : NetStack) : Prop where
  created : s.log.created = firstIds p s.log.created.length
  next : s.nextId = idAt p s.log.created.length
  queued : ∀ msg ∈ s.queued, msg.id ∈ s.log.created
  conns : ∀ id c, s.tables.conn id = some c → id ∈ s.log.created
  udpConns : ∀ id c, s.tables.udpConn id = some c → id ∈ s.log.created

namespace NetStack

variable {s s' : NetStack} {e : Event}

lemma named_fresh (p : Profile) (iface : Interface) : (fresh iface).Named p where
  created := rfl
  next := by
    cases hWidth : p.width <;>
      simp [idAt, hWidth, Usize.cast, Usize.bits, fresh]
  queued := nofun
  conns := nofun
  udpConns := nofun

lemma Named.next_notMem (hNamed : s.Named p)
  (hCount : s.log.created.length < idCount p) : s.nextId ∉ s.log.created := by
  rw [hNamed.next, hNamed.created]
  simpa [firstIds] using idAt_notMem_firstIds hCount

lemma Named.created_snoc
  (hNamed : s.Named p) {created : List Nat} (hCreated : created = s.log.created ++ [s.nextId]) :
  created = firstIds p created.length ∧ p.width.cast (s.nextId + 1) = idAt p created.length := by
  have hLength : created.length = s.log.created.length + 1 := by simp [hCreated]
  constructor
  · rw [hLength, firstIds_succ, ← hNamed.created, ← hNamed.next]
    exact hCreated
  · rw [hLength, hNamed.next]
    exact Nat.mod_add_mod _ _ _

lemma ids_of_logged (hLogged : Logged p s e s') :
  s'.log.created = s.log.created ∧ s'.nextId = s.nextId ∨ e.opens ∧
  s'.log.created = s.log.created ++ [s.nextId] ∧ s'.nextId = p.width.cast (s.nextId + 1) := by
  cases hLogged with
  | quiet _ hLog hNextId | queued _ hLog hNextId => exact .inl ⟨congrArg Log.created hLog, hNextId⟩
  | openedTcp hOpens hLog hNextId | openedUdp hOpens hLog hNextId =>
    exact .inr ⟨hOpens, congrArg Log.created hLog, hNextId⟩
  | handled hLog hNextId | closed _ hLog hNextId | retired _ _ _ hLog hNextId =>
    refine .inl ⟨?_, hNextId⟩
    rw [hLog]

lemma queued_of_logged (hLogged : Logged p s e s') :
  s'.queued = s.queued ∨ ∃ msg, msg.id ∈ s.log.created ∧ s'.queued = s.queued ++ [msg] := by
  cases hLogged with
  | quiet _ hLog _ hData | openedTcp _ hLog _ hData | openedUdp _ hLog _ hData
  | retired _ _ _ hLog _ hData =>
    left
    rw [queued, queued, hLog, hData]
  | queued hId hLog _ hData =>
    right
    refine ⟨_, hId, ?_⟩
    rw [queued, queued, hLog, hData, append_assoc]
  | handled hLog _ hData | closed _ hLog _ hData =>
    left
    rw [queued, queued, hLog, hData]
    simp

variable {id : Nat}

lemma created_subset_of_logged
  (hLogged : Logged p s e s') (hId : id ∈ s.log.created) : id ∈ s'.log.created := by
  rcases ids_of_logged hLogged with ⟨hCreated, hNextId⟩ | ⟨_, hCreated, hNextId⟩
  · rw [hCreated]
    exact hId
  · rw [hCreated]
    exact mem_append_left _ hId

lemma length_created_of_logged (hLogged : Logged p s e s') :
  s.log.created.length ≤ s'.log.created.length := by
  rcases ids_of_logged hLogged with ⟨hCreated, hNextId⟩ | ⟨_, hCreated, hNextId⟩
  · rw [hCreated]
  · rw [hCreated, length_append]
    omega

lemma mem_created_of_origin {c : Conn} (hNamed : s.Named p)
  (hLogged : Logged p s e s') (hOrigin : Origin p s s' e id c) : id ∈ s'.log.created := by
  cases hOrigin with
  | kept _ hConn | handled _ hConn | polled hConn | acted hConn
  | visited _ hConn =>
    apply created_subset_of_logged hLogged
    exact hNamed.conns _ _ hConn
  | opened _ hCreated =>
    rw [hCreated]
    simp

lemma mem_created_of_udpOrigin {c : UdpConn} (hNamed : s.Named p)
  (hLogged : Logged p s e s') (hOrigin : UdpOrigin p s s' e id c) : id ∈ s'.log.created := by
  cases hOrigin with
  | kept _ hConn | handled _ hConn | polled hConn | acted hConn | visited hConn =>
    apply created_subset_of_logged hLogged
    exact hNamed.udpConns _ _ hConn
  | opened _ hCreated =>
    rw [hCreated]
    simp

lemma named_of_next (hCons : s.tables.Consistent) (hNamed : s.Named p)
  (hNext : s.next p e = some (.ok s')) : s'.Named p := by
  have hLogged := logged_of_next hCons hNext
  have hIds : s'.log.created = firstIds p s'.log.created.length ∧
    s'.nextId = idAt p s'.log.created.length := by
    rcases ids_of_logged hLogged with ⟨hCreated, hNextId⟩ | ⟨_, hCreated, hNextId⟩
    · rw [hCreated, hNextId]
      exact ⟨hNamed.created, hNamed.next⟩
    · rw [hNextId]
      exact hNamed.created_snoc hCreated
  constructor
  · exact hIds.1
  · exact hIds.2
  · intro msg hMsg
    apply created_subset_of_logged hLogged
    rcases queued_of_logged hLogged with hSame | ⟨new, hId, hQueued⟩
    · rw [hSame] at hMsg
      exact hNamed.queued msg hMsg
    · rw [hQueued] at hMsg
      exact forall_mem_append.mpr ⟨hNamed.queued, forall_mem_singleton.mpr hId⟩ msg hMsg
  · intro id c hConn
    exact mem_created_of_origin hNamed hLogged (origin_of_next hCons hNext hConn)
  · intro id c hConn
    exact mem_created_of_udpOrigin hNamed hLogged (udpOrigin_of_next hCons hNext hConn)

end NetStack

-- Separate Streams

def payloads (id : Nat) (msgs : List DataIn) : Bytes :=
  msgs.flatMap fun
    | .tcp i data => if i = id then data else []
    | _ => []

def datagrams (id : Nat) (msgs : List DataIn) : List Datagram :=
  msgs.flatMap fun
    | .udp i dst data => if i = id then [(dst, data)] else []
    | _ => []

section

variable (id : Nat) (msgs msgs' : List DataIn)

lemma payloads_append : payloads id (msgs ++ msgs') = payloads id msgs ++ payloads id msgs' :=
  flatMap_append

lemma datagrams_append : datagrams id (msgs ++ msgs') = datagrams id msgs ++ datagrams id msgs' :=
  flatMap_append

end

lemma payloads_of_notMem {id : Nat}
  {msgs : List DataIn} (hNone : ∀ msg ∈ msgs, msg.id ≠ id) : payloads id msgs = [] := by
  apply flatMap_eq_nil_iff.mpr
  intro msg hMsg
  have hId := hNone msg hMsg
  cases msg with
  | tcp => exact if_neg hId
  | tcpClose | udp | udpClose => rfl

namespace Conn

variable {id : Nat} {handled : List DataIn} {c c' : Conn}

/-
  Socket and channel belong to the id; what was handled for the id is accepted or pending, and
  what was received is delivered or in the receive buffer.
-/
structure Separate (id : Nat) (handled : List DataIn) (c : Conn) : Prop where
  owner : c.sock.owner = id
  label : c.entry.toApp.label = id
  upload : c.sock.accepted ++ c.entry.pending = payloads id handled
  download : c.entry.toApp.delivered.flatten ++ c.sock.rx.flatten = c.sock.received

lemma Separate.keeps (hSep : Separate id handled c) (hKeeps : Keeps c c') :
  Separate id handled c' where
  owner := hKeeps.owner.trans hSep.owner
  label := hKeeps.label.trans hSep.label
  upload := hKeeps.upload.trans hSep.upload
  download := by
    have hPieces := congrArg List.flatten hKeeps.download
    rw [flatten_append, flatten_append] at hPieces
    rw [hPieces, hKeeps.received]
    exact hSep.download

lemma Separate.append {msgs : List DataIn} (hSep : Separate id handled c)
  (hNone : payloads id msgs = []) : Separate id (handled ++ msgs) c := { hSep with
  upload := by
    rw [payloads_append, hNone, append_nil]
    exact hSep.upload }

lemma Separate.handle (hSep : Separate id handled c) (msg : DataIn) :
  Separate id (handled ++ [msg]) (c.handle id msg) := by
  cases msg with
  | tcp i data =>
    by_cases hId : i = id
    · subst hId
      have hLast : payloads i [.tcp i data] = data := by simp [payloads]
      rw [Conn.handle, if_pos rfl]
      refine ⟨hSep.owner, hSep.label, ?_, hSep.download⟩
      rw [payloads_append, hLast, ← hSep.upload, append_assoc]
      rfl
    · rw [Conn.handle, if_neg hId]
      apply hSep.append
      simp [payloads, hId]
  | tcpClose i =>
    have hKept : Separate id (handled ++ [.tcpClose i]) c := hSep.append rfl
    rw [Conn.handle]
    split
    · exact { hKept with }
    · exact hKept
  | udp | udpClose => exact hSep.append rfl

lemma Separate.poll (hSep : Separate id handled c) {state : State}
  {bytes : Bytes} {slices : List Bytes} (hSlices : slices.flatten = c.sock.rx.flatten ++ bytes) :
  Separate id handled (c.setSock (c.sock.poll state bytes slices)) := { hSep with
  download := by
    have hAll := congrArg (· ++ bytes) hSep.download
    simp only [append_assoc] at hAll
    rw [← hSlices] at hAll
    exact hAll }

/-
  The socket of an id accepted bytes queued under that id only, and its channel got bytes the
  socket received only.
-/
structure Private (id : Nat) (queued : List DataIn) (c : Conn) : Prop where
  owner : c.sock.owner = id
  label : c.entry.toApp.label = id
  accepted : c.sock.accepted <+: payloads id queued
  delivered : c.entry.toApp.delivered.flatten <+: c.sock.received

lemma Separate.isPrivate (hSep : Separate id handled c) : Private id handled c := { hSep with
  accepted := by
    rw [← hSep.upload]
    exact prefix_append _ _
  delivered := by
    rw [← hSep.download]
    exact prefix_append _ _ }

lemma Private.append (hPrivate : Private id handled c) (msgs : List DataIn) :
  Private id (handled ++ msgs) c := { hPrivate with
  accepted := by
    rw [payloads_append]
    exact hPrivate.accepted.trans (prefix_append _ _) }

end Conn

namespace UdpConn

variable {id : Nat} {handled : List DataIn} {c : UdpConn}

/- The same for UDP, where `send_slice` may drop datagrams. -/
structure Separate (id : Nat) (handled : List DataIn) (c : UdpConn) : Prop where
  owner : c.sock.owner = id
  label : c.entry.toApp.label = id
  upload : c.sock.sent.Sublist (datagrams id handled)
  download : c.entry.toApp.delivered ++ c.sock.rx = c.sock.received

structure Private (id : Nat) (queued : List DataIn) (c : UdpConn) : Prop where
  owner : c.sock.owner = id
  label : c.entry.toApp.label = id
  sent : c.sock.sent.Sublist (datagrams id queued)
  delivered : c.entry.toApp.delivered <+: c.sock.received

lemma Separate.isPrivate (hSep : Separate id handled c) : Private id handled c := { hSep with
  sent := hSep.upload
  delivered := by
    rw [← hSep.download]
    exact prefix_append _ _ }

lemma Private.append (hPrivate : Private id handled c) (msgs : List DataIn) :
  Private id (handled ++ msgs) c := { hPrivate with
  sent := by
    rw [datagrams_append]
    exact hPrivate.sent.trans (sublist_append_left _ _) }

variable (hSep : Separate id handled c)

include hSep

lemma Separate.append (msgs : List DataIn) : Separate id (handled ++ msgs) c := { hSep with
  upload := by
    rw [datagrams_append]
    exact hSep.upload.trans (sublist_append_left _ _) }

lemma Separate.handle
  (sent : Bool) (msg : DataIn) : Separate id (handled ++ [msg]) (c.handle id sent msg) := by
  cases msg with
  | udp i dst data =>
    rw [UdpConn.handle]
    split
    next hId =>
      subst hId
      refine ⟨hSep.owner, hSep.label, ?_, hSep.download⟩
      have hLast : datagrams i [.udp i dst data] = [(dst, data)] := by simp [datagrams]
      rw [datagrams_append, hLast]
      cases sent with
      | true => exact hSep.upload.append (.refl _)
      | false => exact hSep.upload.trans (sublist_append_left _ _)
    · exact hSep.append _
  | udpClose | tcp | tcpClose => exact hSep.append _

lemma Separate.service
  (turns : List (List Channel.Move)) : Separate id handled (c.service turns) := { hSep with
  label := (Channel.deliver_kept _ _ _ _).1.trans hSep.label
  download := (Channel.deliver_kept _ _ _ _).2.trans hSep.download }

end UdpConn

-- Isolation

namespace NetStack

variable {s s' : NetStack} {e : Event}

structure Separated (s : NetStack) : Prop where
  conns : ∀ id c, s.tables.conn id = some c → c.Separate id s.log.handled
  udpConns : ∀ id c, s.tables.udpConn id = some c → c.Separate id s.log.handled
  retired : ∀ x ∈ s.log.retired, x.2.Private x.1 s.log.handled
  retiredUdp : ∀ x ∈ s.log.retiredUdp, x.2.Private x.1 s.log.handled

structure Isolated (s : NetStack) : Prop where
  conns : ∀ id c, s.tables.conn id = some c → c.Private id s.queued
  udpConns : ∀ id c, s.tables.udpConn id = some c → c.Private id s.queued
  retired : ∀ x ∈ s.log.retired, x.2.Private x.1 s.queued
  retiredUdp : ∀ x ∈ s.log.retiredUdp, x.2.Private x.1 s.queued

lemma Separated.isolated (hSep : s.Separated) : s.Isolated where
  conns := fun id c hConn => (hSep.conns id c hConn).isPrivate.append _
  udpConns := fun id c hConn => (hSep.udpConns id c hConn).isPrivate.append _
  retired := fun x hMem => (hSep.retired x hMem).append _
  retiredUdp := fun x hMem => (hSep.retiredUdp x hMem).append _

section

variable (hNamed : s.Named p) (hCount : s.log.created.length < idCount p)

include hNamed hCount

lemma Named.handled_ne_next : ∀ msg ∈ s.log.handled, msg.id ≠ s.nextId := by
  intro msg hMsg hSame
  apply hNamed.next_notMem hCount
  rw [← hSame]
  exact hNamed.queued msg (mem_append_left _ hMsg)

lemma Named.replaced_eq_nil : s.replaced = [] := by
  unfold replaced
  cases hConn : s.tables.conn s.nextId with
  | none => rfl
  | some => exact absurd (hNamed.conns _ _ hConn) (hNamed.next_notMem hCount)

lemma Named.replacedUdp_eq_nil : s.replacedUdp = [] := by
  unfold replacedUdp
  cases hConn : s.tables.udpConn s.nextId with
  | none => rfl
  | some => exact absurd (hNamed.udpConns _ _ hConn) (hNamed.next_notMem hCount)

end

lemma handled_of_quiet (hLogged : Logged p s e s') (hQuiet : e.quiet) :
  s'.log.handled = s.log.handled := by
  cases hLogged with
  | quiet _ hLog | openedTcp _ hLog | openedUdp _ hLog | queued _ hLog
  | retired _ _ _ hLog => rw [hLog]
  | handled | closed => cases hQuiet

lemma handled_of_data {sent : Bool} {msg : DataIn} {rest : List DataIn}
  (hLogged : Logged p s (.data sent) s') (hData : s.dataIn = msg :: rest) :
  s'.log.handled = s.log.handled ++ [msg] := by
  cases hLogged with
  | quiet hQuiet => cases hQuiet
  | openedTcp hOpens | openedUdp hOpens => cases hOpens
  | handled hLog _ hRest | closed _ hLog _ hRest =>
    rw [hData] at hRest
    cases hRest
    rw [hLog]

variable {id : Nat}

lemma separate_of_origin {c : Conn} (hNamed : s.Named p) (hSep : s.Separated)
  (hLogged : Logged p s e s') (hCount : s'.log.created.length ≤ idCount p)
  (hOrigin : Origin p s s' e id c) : c.Separate id s'.log.handled := by
  cases hOrigin with
  | kept hQuiet hConn =>
    rw [handled_of_quiet hLogged hQuiet]
    exact hSep.conns _ _ hConn
  | opened hQuiet hCreated =>
    rw [handled_of_quiet hLogged hQuiet]
    have hRoom : s.log.created.length < idCount p := by
      rw [hCreated, length_append] at hCount
      exact hCount
    have hNone := hNamed.handled_ne_next hRoom
    exact ⟨rfl, rfl, (payloads_of_notMem hNone).symm, rfl⟩
  | handled hData hConn =>
    rw [handled_of_data hLogged hData]
    exact (hSep.conns _ _ hConn).handle _
  | polled hConn hSlices =>
    rw [handled_of_quiet hLogged rfl]
    exact (hSep.conns _ _ hConn).poll hSlices
  | acted hConn =>
    rw [handled_of_quiet hLogged rfl]
    exact (hSep.conns _ _ hConn).keeps (Conn.keeps_acts _ _)
  | visited _ hConn =>
    rw [handled_of_quiet hLogged rfl]
    exact (hSep.conns _ _ hConn).keeps (Conn.keeps_service _ _)

lemma separate_of_udpOrigin {c : UdpConn} (hSep : s.Separated) (hLogged : Logged p s e s')
  (hOrigin : UdpOrigin p s s' e id c) : c.Separate id s'.log.handled := by
  cases hOrigin with
  | kept hQuiet hConn =>
    rw [handled_of_quiet hLogged hQuiet]
    exact hSep.udpConns _ _ hConn
  | opened => exact ⟨rfl, rfl, nil_sublist _, rfl⟩
  | handled hData hConn =>
    rw [handled_of_data hLogged hData]
    exact (hSep.udpConns _ _ hConn).handle _ _
  | polled hConn =>
    rw [handled_of_quiet hLogged rfl]
    have hOld := hSep.udpConns _ _ hConn
    refine ⟨hOld.owner, hOld.label, hOld.upload, ?_⟩
    rw [← hOld.download, ← append_assoc]
  | acted hConn =>
    rw [handled_of_quiet hLogged rfl]
    have hOld := hSep.udpConns _ _ hConn
    refine ⟨hOld.owner, ?_, hOld.upload, ?_⟩
    · exact (Channel.acts_kept _ _).1.trans hOld.label
    · rw [(Channel.acts_kept _ _).2.1]
      exact hOld.download
  | visited hConn =>
    rw [handled_of_quiet hLogged rfl]
    exact (hSep.udpConns _ _ hConn).service _

section

variable (hNamed : s.Named p) (hSep : s.Separated) (hLogged : Logged p s e s')
  (hCount : s'.log.created.length ≤ idCount p)

include hNamed hSep hLogged hCount

lemma private_of_retired : ∀ x ∈ s'.log.retired, x.2.Private x.1 s'.log.handled := by
  intro x hMem
  rcases handled_of_logged hLogged with ⟨msgs, hHandled⟩
  rw [hHandled]
  cases gone_of_logged hLogged hMem with
  | before hOld => exact (hSep.retired x hOld).append msgs
  | replaced _ hCreated hOld =>
    have hRoom : s.log.created.length < idCount p := by
      rw [hCreated, length_append] at hCount
      exact hCount
    rw [hNamed.replaced_eq_nil hRoom] at hOld
    cases hOld
  | @removed visit _ _ c _ hConn =>
    have hAfter := (hSep.conns _ _ hConn).keeps (Conn.keeps_service c visit)
    exact hAfter.isPrivate.append msgs

lemma private_of_retiredUdp : ∀ x ∈ s'.log.retiredUdp, x.2.Private x.1 s'.log.handled := by
  intro x hMem
  rcases handled_of_logged hLogged with ⟨msgs, hHandled⟩
  rw [hHandled]
  have hBefore (hOld : x ∈ s.log.retiredUdp) : x.2.Private x.1 (s.log.handled ++ msgs) :=
    (hSep.retiredUdp x hOld).append msgs
  cases hLogged with
  | quiet _ hLog | queued _ hLog | handled hLog | retired _ _ _ hLog =>
    rw [hLog] at hMem
    exact hBefore hMem
  | openedTcp _ hLog =>
    rw [hLog, append_nil] at hMem
    exact hBefore hMem
  | openedUdp _ hLog =>
    have hCreated := congrArg Log.created hLog
    have hRoom : s.log.created.length < idCount p := by
      rw [hCreated, length_append] at hCount
      exact hCount
    rw [hLog, hNamed.replacedUdp_eq_nil hRoom] at hMem
    exact hBefore (by simpa using hMem)
  | closed hConn hLog =>
    rw [hLog] at hMem
    rcases mem_append.mp hMem with hOld | hNew
    · exact hBefore hOld
    · rw [mem_singleton.mp hNew]
      exact (hSep.udpConns _ _ hConn).isPrivate.append msgs

end

lemma separated_of_next (hCons : s.tables.Consistent) (hNamed : s.Named p)
  (hSep : s.Separated) (hCount : s'.log.created.length ≤ idCount p)
  (hNext : s.next p e = some (.ok s')) : s'.Separated := by
  have hLogged := logged_of_next hCons hNext
  constructor
  · intro id c hConn
    exact separate_of_origin hNamed hSep hLogged hCount (origin_of_next hCons hNext hConn)
  · intro id c hConn
    exact separate_of_udpOrigin hSep hLogged (udpOrigin_of_next hCons hNext hConn)
  · exact private_of_retired hNamed hSep hLogged hCount
  · exact private_of_retiredUdp hNamed hSep hLogged hCount

structure Sound (p : Profile) (s : NetStack) : Prop where
  consistent : s.tables.Consistent
  named : s.Named p
  separated : s.log.created.length ≤ idCount p → s.Separated

lemma sound_fresh (p : Profile) (iface : Interface) : (fresh iface).Sound p where
  consistent := Tables.consistent_empty
  named := named_fresh p iface
  separated := fun _ => ⟨nofun, nofun, nofun, nofun⟩

lemma sound_of_next (hSound : s.Sound p) (hNext : s.next p e = some (.ok s')) : s'.Sound p where
  consistent := consistent_of_next hSound.consistent hNext
  named := named_of_next hSound.consistent hSound.named hNext
  separated := by
    intro hCount
    have hLogged := logged_of_next hSound.consistent hNext
    have hBefore : s.log.created.length ≤ idCount p :=
      (length_created_of_logged hLogged).trans hCount
    exact separated_of_next hSound.consistent hSound.named (hSound.separated hBefore) hCount hNext

end NetStack

def Sane (p : Profile) (σ : Except Panic NetStack) : Prop :=
  match σ with
  | .ok s => s.Sound p
  | .error panic => panic = .address

lemma sane_step {σ σ' : Except Panic NetStack} {e : Event} (hSane : Sane p σ)
  (hStep : step p σ e = some σ') : Sane p σ' := by
  cases σ with
  | error => cases hStep
  | ok s =>
    have hSound : s.Sound p := hSane
    rcases goesOn_next hSound.consistent hStep with hPanic | ⟨s', hOk, _⟩
    · rw [hPanic]
      exact rfl
    · subst hOk
      exact sound_of_next hSound hStep

lemma sane_of_reaches {ok : Except Panic NetStack → Event → Prop} {iface : Interface}
  {σ : Except Panic NetStack} (hRun : Reaches (step p) ok (.ok (.fresh iface)) σ) : Sane p σ := by
  apply Reaches.invariant (I := Sane p) _ _ hRun
  · exact sound_fresh p iface
  · intro s s' e hSane hOk hStep
    exact sane_step hSane hStep

/-
  In every state of a run every handle denotes a live socket of its kind, no two entries share one
  and no access to a socket has panicked.
-/
theorem isolated_of_reaches
    {p : Profile}
    {iface : Interface}
    {σ : Except Panic NetStack}
    (hRun : Reaches (step p) Always (.ok (.fresh iface)) σ) :
    σ ≠ .error .handle ∧
    ∀ s,
      σ = .ok s →
      (∀ id entry,
        s.tables.tcpConns.lookup id = some entry →
        ∃ sock, s.tables.sockets.lookup entry.handle = some (.tcp sock)) ∧
      (∀ id entry,
        s.tables.udpConns.lookup id = some entry →
        ∃ sock, s.tables.sockets.lookup entry.handle = some (.udp sock)) ∧
      (∀ key key' slot,
        s.tables.handle key = some slot → s.tables.handle key' = some slot → key = key') ∧
      (s.log.created.length ≤ 2 ^ p.width.bits → s.log.created.Nodup ∧ s.Isolated) := by
  have hSane := sane_of_reaches hRun
  constructor
  · rintro rfl
    cases hSane
  · rintro s rfl
    have hSound : s.Sound p := hSane
    refine ⟨?_, ?_, ?_, ?_⟩
    · intro id entry hEntry
      rcases hSound.consistent.exists_conn hEntry with ⟨sock, hConn⟩
      exact ⟨sock, (Tables.conn_eq_some_iff.mp hConn).2⟩
    · intro id entry hEntry
      rcases hSound.consistent.exists_udpConn hEntry with ⟨sock, hConn⟩
      exact ⟨sock, (Tables.udpConn_eq_some_iff.mp hConn).2⟩
    · intro key key' slot hFirst hSecond
      exact hSound.consistent.distinct hFirst hSecond
    · intro hCount
      constructor
      · rw [hSound.named.created]
        exact nodup_firstIds hCount
      · exact (hSound.separated hCount).isolated

/-
  One connection: it is opened in slot 0 and established, a byte is queued under its id 1, and a
  second visit sends it.
-/
def uploadEvents : List Event :=
  [.cmd (.openTcp ⟨.v4 ⟨1, 1, 1, 1⟩, 443⟩) ⟨true, 0⟩,
    .segment 0 .established [] [], .beginTcp [1], .visitTcp ⟨true, 0, []⟩,
    .endWalk, .queue (.tcp 1 [65]), .data true, .beginTcp [1], .visitTcp ⟨true, 1460, []⟩, .endWalk]

def uploaded (σ : Except Panic NetStack) : Bool :=
  match σ with
  | .ok s => s.log.created.length ≤ 1 && (s.tables.conn 1).any fun c => c.sock.accepted = [65]
  | .error _ => false

theorem isolated_of_reaches_upload : ∃ s, Reaches (step ⟨.w64, .low⟩)
  Always (.ok (.fresh .new)) (.ok s) ∧ uploaded (.ok s) = true ∧ s.Isolated := by
  rcases exists_reaches (step ⟨.w64, .low⟩) Always (.ok (.fresh .new)) uploaded uploadEvents
    (taken_always _ _ _) (by decide +kernel) with
    ⟨σ, hRun, hUploaded⟩
  cases σ with
  | error => cases hUploaded
  | ok s =>
    have hCreated : s.log.created.length ≤ 1 := by
      simp only [uploaded, Bool.and_eq_true, decide_eq_true_eq] at hUploaded
      exact hUploaded.1
    have hSome := ((isolated_of_reaches hRun).2 s rfl).2.2.2
    have hWidth : 1 ≤ 2 ^ Usize.w64.bits := Nat.one_le_two_pow
    refine ⟨s, hRun, hUploaded, ?_⟩
    exact (hSome (hCreated.trans hWidth)).2

-- The Counter Wraps Round

lemma exists_openClose {s : NetStack}
  (hPhase : s.phase = .idle) (hData : s.dataIn = []) (hFree : s.tables.sockets.lookup 0 = none) :
  ∃ events s', exec (step p) (.ok s) events = some (.ok s') ∧ s'.phase = .idle ∧ s'.dataIn = [] ∧
  s'.tables.sockets.lookup 0 = none ∧ s'.log.created = s.log.created ++ [s.nextId] := by
  let opened := s.allocPort.openUdp p 0
  let waiting := opened.setDataIn [.udpClose s.nextId]
  let conn : UdpConn := s.newUdpConn p 0
  let closed := (waiting.takeData (.udpClose s.nextId) [] waiting.tables).retireUdp s.nextId conn
  have hOpen : step p (.ok s) (.cmd .openUdp ⟨true, 0⟩) = some (.ok opened) := by
    simp [step, NetStack.next, ready, hPhase, hFree, handleCmd, opened]
  have hQueue : step p (.ok opened) (.queue (.udpClose s.nextId)) = some (.ok waiting) := by
    have hId : s.nextId ∈ opened.log.created := mem_append_right _ (mem_singleton.mpr rfl)
    have hNone : opened.dataIn = [] := hData
    simp [step, NetStack.next, DataIn.id, hId, hNone, waiting]
  have hConn : waiting.tables.udpConn s.nextId = some conn := by
    apply Tables.udpConn_eq_some_iff.mpr
    constructor
    all_goals exact AList.lookup_insert _
  have hClose : step p (.ok waiting) (.data true) = some (.ok closed) := by
    have hIdle : waiting.phase = .idle := hPhase
    have hHead : waiting.dataIn = [.udpClose s.nextId] := rfl
    simp only [step, NetStack.next, hIdle, hHead]
    rw [handleData_udpClose_of_conn hConn]
  refine ⟨[.cmd .openUdp ⟨true, 0⟩, .queue (.udpClose s.nextId), .data true],
    closed, ?_, hPhase, rfl, ?_, rfl⟩
  · simp [exec, hOpen, hQueue, hClose]
  · exact AList.lookup_erase _ _

lemma exists_reaches_created (p : Profile)
  (n : Nat) : ∃ s, Reaches (step p) Always (.ok (.fresh .new)) (.ok s) ∧ s.phase = .idle ∧
  s.dataIn = [] ∧ s.tables.sockets.lookup 0 = none ∧ s.log.created.length = n := by
  induction n with
  | zero => exact ⟨.fresh .new, .start, rfl, rfl, rfl, rfl⟩
  | succ n ih =>
    rcases ih with ⟨s, hRun, hPhase, hData, hFree, hLength⟩
    rcases exists_openClose (p := p) hPhase hData hFree
      with ⟨events, s', hExec, hPhase', hData', hFree', hCreated⟩
    refine ⟨s', ?_, hPhase', hData', hFree', ?_⟩
    · exact hRun.of_exec hExec (taken_always _ _ _)
    · rw [hCreated, length_append, hLength]
      rfl

lemma idAt_idCount (p : Profile) : idAt p (idCount p) = idAt p 0 := by
  have hMod := Nat.add_mod_left (2 ^ p.width.bits) 1
  exact hMod

/- On a 32-bit target the connection opened after 2 ^ 32 others gets the id of the first one. -/
theorem id_given_twice : ∃ s, Reaches (step ⟨.w32, .low⟩) Always (.ok (.fresh .new)) (.ok s) ∧
  ¬ s.log.created.Nodup := by
  rcases exists_reaches_created ⟨.w32, .low⟩ (idCount ⟨.w32, .low⟩ + 1) with
    ⟨s, hRun, hPhase, hData, hFree, hLength⟩
  refine ⟨s, hRun, ?_⟩
  have hSound : s.Sound ⟨.w32, .low⟩ := sane_of_reaches hRun
  rw [hSound.named.created, hLength]
  intro hNodup
  have hPos : 0 < idCount ⟨.w32, .low⟩ := Nat.two_pow_pos _
  have hFirst : 0 ∈ List.range (idCount ⟨.w32, .low⟩ + 1) := mem_range.mpr (by omega)
  have hLast : idCount ⟨.w32, .low⟩ ∈ List.range (idCount ⟨.w32, .low⟩ + 1) :=
    mem_range.mpr (by omega)
  have hSame := inj_on_of_nodup_map hNodup hFirst hLast (idAt_idCount ⟨.w32, .low⟩).symm
  omega

end Kourosh.Netstack
