import Kourosh.Netstack.Isolation

/-
  What the application gets of the peer's stream.

  A visit removes an established connection as soon as its socket is closed, whatever is left in
  the receive buffer.

  Correctness is proven by:
    * `delivered_eq_received_of_reaches`
-/

-- The State Of The Socket

namespace Kourosh.Netstack

open Run
open Bool

lemma State.close_close (state : State) : state.close.close = state.close := by
  cases state <;> rfl

namespace Conn

/- A state is left by `close` only. -/
def ClosesOnly (c c' : Conn) : Prop := c'.sock.state = c.sock.state ∨
  c'.sock.state = c.sock.state.close

lemma ClosesOnly.trans {c c' c'' : Conn}
  (hFirst : ClosesOnly c c') (hSecond : ClosesOnly c' c'') : ClosesOnly c c'' := by
  rcases hSecond with hSame | hClose
  · rcases hFirst with hSame' | hClose'
    · exact .inl (hSame.trans hSame')
    · exact .inr (hSame.trans hClose')
  · rcases hFirst with hSame' | hClose'
    · right
      rw [hClose, hSame']
    · right
      rw [hClose, hClose', State.close_close]

section

variable (c : Conn)

lemma closesOnly_announce (taken : Bool) : ClosesOnly c (c.announce taken) := by
  unfold announce
  split
  all_goals exact .inl rfl

lemma closesOnly_upload (offered : Nat) : ClosesOnly c (c.upload offered) := by
  unfold upload
  split
  all_goals exact .inl rfl

lemma closesOnly_endUpload : ClosesOnly c c.endUpload := by
  unfold endUpload
  split
  · exact .inr rfl
  · exact .inl rfl

lemma closesOnly_leave (stopped : Channel.Reservation) : ClosesOnly c (c.leave stopped) := by
  unfold leave
  split
  · exact .inr rfl
  · exact .inl rfl

variable (visit : Visit)

lemma closesOnly_uploaded : ClosesOnly c (c.uploaded visit) :=
  ((c.closesOnly_announce _).trans (closesOnly_upload _ _)).trans (closesOnly_endUpload _)

lemma closesOnly_received : ClosesOnly (c.uploaded visit) (c.downloaded visit) := by
  have hDownload : ClosesOnly (c.uploaded visit) ((c.uploaded visit).download visit) := .inl rfl
  exact hDownload.trans (closesOnly_leave _ _)

lemma closesOnly_downloaded : ClosesOnly c (c.downloaded visit) :=
  (c.closesOnly_uploaded visit).trans (c.closesOnly_received visit)

end

variable {c : Conn} {visit : Visit}

-- The Entry During A Visit

section

variable (c : Conn)

@[simp] lemma upload_kept (offered : Nat) :
  (c.upload offered).entry.established = c.entry.established ∧
  (c.upload offered).entry.toApp = c.entry.toApp ∧
  (c.upload offered).entry.fromStackRx = c.entry.fromStackRx ∧
  (c.upload offered).entry.halfClosed = c.entry.halfClosed ∧
  (c.upload offered).sock.rx = c.sock.rx ∧ (c.upload offered).sock.closes = c.sock.closes := by
  unfold upload
  split
  all_goals exact ⟨rfl, rfl, rfl, rfl, rfl, rfl⟩

@[simp] lemma endUpload_kept : c.endUpload.entry = c.entry ∧ c.endUpload.sock.rx = c.sock.rx := by
  unfold endUpload
  split
  all_goals exact ⟨rfl, rfl⟩

@[simp] lemma leave_kept (stopped : Channel.Reservation) :
  (c.leave stopped).entry = c.entry ∧ (c.leave stopped).sock.rx = c.sock.rx := by
  unfold leave
  split
  all_goals exact ⟨rfl, rfl⟩

@[simp] lemma closeWait_kept : c.closeWait.entry = c.entry ∧ c.closeWait.sock.rx = c.sock.rx := by
  unfold closeWait
  split
  all_goals exact ⟨rfl, rfl⟩

lemma downloaded_established (visit : Visit) :
  (c.downloaded visit).entry.established = (c.announce visit.taken).entry.established := by
  simp [downloaded, download, TcpState.setToApp, uploaded]

end

lemma delivery_of_established
  (hEst : c.entry.established) (visit : Visit) : (c.uploaded visit).delivery visit =
  Channel.deliver maxRecvChunks (c.turns visit) c.sock.rx c.entry.toApp := by
  simp [delivery, turns, uploaded, announce, hEst]

-- The Last Visit

/-
  A visit that ends an established connection finds its socket closed, or in a state `close` makes
  closed.
-/
lemma of_finished (hEnd : (c.service visit).2 = .finished) : c.entry.established ∧
  c.sock.state.close = .closed ∧ (c.service visit).1 = (c.downloaded visit).closeWait := by
  unfold service at hEnd ⊢
  split at hEnd
  · cases hEnd
  next hAlive =>
    rw [if_neg hAlive]
    simp only at hEnd
    split at hEnd
    next hDone =>
      simp only [done, and_eq_true, decide_eq_true_eq] at hDone
      have hClosed : c.sock.state.close = .closed := by
        rcases c.closesOnly_downloaded visit with hSame | hClose
        · rw [← hSame, hDone.1]
          rfl
        · rw [← hClose]
          exact hDone.1
      refine ⟨?_, hClosed, rfl⟩
      have hEst := hDone.2
      rw [downloaded_established] at hEst
      unfold announce at hEst
      split at hEst
      next hState =>
        simp only [and_eq_true, decide_eq_true_eq] at hState
        rw [hState.2] at hClosed
        cases hClosed
      · exact hEst
    · cases hEnd

lemma established_of_refused (hEnd : (c.service visit).2 = .refused) :
  (c.service visit).1.entry.established = false := by
  unfold service at hEnd ⊢
  split at hEnd
  next hDead =>
    rw [if_pos hDead]
    simp only [dead, and_eq_true, not_eq_true'] at hDead
    exact hDead.1
  · simp only at hEnd
    split at hEnd
    all_goals cases hEnd

/-
  If the visit finds the socket at its end, the application leaves room in its queue for every
  piece of the receive buffer, and one visit is enough for them.
-/
def Roomy (c : Conn) (visit : Visit) : Prop :=
  c.entry.established = true → c.entry.toApp.alive = true → c.sock.state.close = .closed →
    c.sock.rx.length ≤ maxRecvChunks ∧ Channel.RoomFor c.entry.toApp.capacity
    (c.turns visit) c.entry.toApp.queue.length c.sock.rx.length

instance decidableRoomy (c : Conn) (visit : Visit) :
  Decidable (c.Roomy visit) := inferInstanceAs (Decidable (_ → _ → _ → _ ∧ _))

lemma rx_of_finished (hRoomy : c.Roomy visit) (hEnd : (c.service visit).2 = .finished)
  (hAlive : (c.service visit).1.entry.toApp.alive) : (c.service visit).1.sock.rx = [] := by
  rcases of_finished hEnd with ⟨hEst, hClosed, hResult⟩
  have hDelivery := delivery_of_established hEst visit
  rw [hResult] at hAlive ⊢
  simp only [closeWait_kept, downloaded,
    leave_kept, download, TcpSocket.setRx, TcpState.setToApp, hDelivery] at hAlive ⊢
  have hBefore := Channel.alive_of_deliver hAlive
  rcases hRoomy hEst hBefore hClosed with ⟨hLimit, hRoom⟩
  exact Channel.deliver_drains hAlive hLimit hRoom

end Conn

-- Runs

namespace NetStack

variable {p : Profile} {s s' : NetStack} {e : Event}

def visited (s : NetStack) : Option Conn :=
  match s.phase with
  | .tcp (id :: _) => s.tables.conn id
  | _ => none

lemma mem_visited {id : Nat} {todo : List Nat} {c : Conn}
  (hPhase : s.phase = .tcp (id :: todo)) (hConn : s.tables.conn id = some c) : c ∈ s.visited := by
  simp [visited, hPhase, hConn]

def HasId (p : Profile) (s : NetStack) (e : Event) : Prop :=
  e.opens = true → s.log.created.length < idCount p

instance decidableHasId (p : Profile) (s : NetStack) (e : Event) :
  Decidable (s.HasId p e) := inferInstanceAs (Decidable (_ → _))

lemma length_created_of_next (hId : s.HasId p e) (hCount : s.log.created.length ≤ idCount p)
  (hLogged : Logged p s e s') : s'.log.created.length ≤ idCount p := by
  rcases ids_of_logged hLogged with ⟨hCreated, hNextId⟩ | ⟨hOpens, hCreated, hNextId⟩
  · rw [hCreated]
    exact hCount
  · rw [hCreated, List.length_append]
    exact hId hOpens

def OnVisits (q : Conn → Visit → Prop) (p : Profile) (s : NetStack) (e : Event) : Prop :=
  s.HasId p e ∧ match e with
    | .visitTcp visit => ∀ c ∈ s.visited, q c visit
    | _ => True

instance decidableOnVisits (q : Conn → Visit → Prop) [∀ c visit, Decidable (q c visit)]
  (p : Profile) (s : NetStack) (e : Event) : Decidable (s.OnVisits q p e) :=
  have : Decidable (match e with
    | .visitTcp visit => ∀ c ∈ s.visited, q c visit
    | _ => True) :=
    match e with
    | .visitTcp _ => inferInstanceAs (Decidable (∀ c ∈ s.visited, _))
    | .cmd _ _ | .inbound _ _ | .queue _ | .data _
    | .segment _ _ _ _ | .datagram _ _ | .beginTcp _
    | .beginUdp _ | .visitUdp _ | .endWalk | .appTcp _ _
    | .appUdp _ _ => inferInstanceAs (Decidable True)
  inferInstanceAs (Decidable (s.HasId p e ∧ _))

/-
  A connection that was established and whose application stayed has delivered everything it
  received.
-/
def Complete (s : NetStack) : Prop := ∀ id c, (id, c) ∈ s.log.retired →
  c.entry.established = true → c.entry.toApp.alive = true →
    c.entry.toApp.delivered.flatten = c.sock.received

lemma complete_of_logged (hNamed : s.Named p) (hSep : s.Separated) (hComplete : s.Complete)
  (hOk : s.OnVisits Conn.Roomy p e) (hLogged : Logged p s e s') : s'.Complete := by
  intro id c hMem hEst hAlive
  cases gone_of_logged hLogged hMem with
  | before hOld => exact hComplete id c hOld hEst hAlive
  | replaced hOpens _ hOld =>
    rw [hNamed.replaced_eq_nil (hOk.1 hOpens)] at hOld
    cases hOld
  | @removed visit _ _ c' hPhase hConn hEnd =>
    have hRoomy := hOk.2 c' (mem_visited hPhase hConn)
    have hKept := (hSep.conns _ _ hConn).keeps (Conn.keeps_service c' visit)
    cases hVerdict : (c'.service visit).2 with
    | keep => exact absurd hVerdict hEnd
    | refused =>
      rw [Conn.established_of_refused hVerdict] at hEst
      cases hEst
    | finished =>
      have hEmpty := Conn.rx_of_finished hRoomy hVerdict hAlive
      have hAll := hKept.download
      rw [hEmpty] at hAll
      simpa using hAll

end NetStack

def OnVisits (q : Conn → Visit → Prop) (p : Profile) : Except Panic NetStack → Event → Prop
| .ok s, e => s.OnVisits q p e
| .error _, _ => True

instance decidableOnVisits (q : Conn → Visit → Prop) [∀ c visit, Decidable (q c visit)]
  (p : Profile) : ∀ (σ : Except Panic NetStack) (e : Event), Decidable (OnVisits q p σ e)
| .ok s, e => inferInstanceAs (Decidable (s.OnVisits q p e))
| .error _, _ => inferInstanceAs (Decidable True)

abbrev KeepsUp (p : Profile) : Except Panic NetStack → Event → Prop := OnVisits Conn.Roomy p

def Delivered (p : Profile) : Except Panic NetStack → Prop
| .ok s => s.log.created.length ≤ idCount p ∧ s.Complete
| .error _ => True

lemma delivered_step {p : Profile} {σ σ' : Except Panic NetStack} {e : Event}
  (hSane : Sane p σ) (hDelivered : Delivered p σ)
  (hOk : KeepsUp p σ e) (hStep : step p σ e = some σ') : Delivered p σ' := by
  cases σ with
  | error => cases hStep
  | ok s =>
    cases σ' with
    | error => trivial
    | ok =>
      have hSound : s.Sound p := hSane
      have hLogged := NetStack.logged_of_next hSound.consistent hStep
      rcases hDelivered with ⟨hCount, hComplete⟩
      constructor
      · exact NetStack.length_created_of_next hOk.1 hCount hLogged
      · exact NetStack.complete_of_logged hSound.named
          (hSound.separated hCount) hComplete hOk hLogged

/-
  In every run whose application keeps up at the last visits, a removed connection has delivered
  the whole stream of the peer.
-/
theorem delivered_eq_received_of_reaches
    {p : Profile}
    {iface : Interface}
    {s : NetStack}
    (hRun : Reaches (step p) (KeepsUp p) (.ok (.fresh iface)) (.ok s))
    {id : Nat}
    {c : Conn}
    (hRemoved : (id, c) ∈ s.log.retired)
    (hEst : c.entry.established = true)
    (hAlive : c.entry.toApp.alive = true) :
    c.entry.toApp.delivered.flatten = c.sock.received := by
  have hAll : Delivered p (.ok s) := by
    apply Reaches.invariant_of (I := Delivered p) (J := Sane p) _ _ _ hRun
    · intro σ hReached
      exact sane_of_reaches hReached
    · refine ⟨Nat.zero_le _, ?_⟩
      exact nofun
    · intro σ σ' e hSane hDelivered hOk hStep
      exact delivered_step hSane hDelivered hOk hStep
  exact hAll.2 id c hRemoved hEst hAlive

/- A call of `service_tcp` with the one connection 1. -/
def serviceOne (visit : Visit) : List Event := [.beginTcp [1], .visitTcp visit, .endWalk]

def connectOne : List Event :=
  [.cmd (.openTcp ⟨.v4 ⟨1, 1, 1, 1⟩, 443⟩) ⟨true, 0⟩, .segment 0 .established [] []] ++
    serviceOne ⟨true, 0, []⟩

def removedOne (p : Conn → Bool) (σ : Except Panic NetStack) : Bool :=
  match σ with
  | .ok s => s.log.retired.any fun x => x.2.entry.established && x.2.entry.toApp.alive && p x.2
  | .error _ => false

lemma exists_of_removedOne {p : Conn → Bool} {σ : Except Panic NetStack}
  (hRemoved : removedOne p σ) : ∃ s id c, σ = .ok s ∧ (id, c) ∈ s.log.retired ∧
  c.entry.established ∧ c.entry.toApp.alive ∧ p c := by
  cases σ with
  | error => cases hRemoved
  | ok s =>
    rcases List.any_eq_true.mp hRemoved with ⟨⟨id, c⟩, hMem, hBoth⟩
    simp only [and_eq_true] at hBoth
    exact ⟨s, id, c, rfl, hMem, hBoth.1.1, hBoth.1.2, hBoth.2⟩

def shortDownload : List Event :=
  connectOne ++ [.segment 0 .closeWait [65, 66] [[65, 66]]] ++
    serviceOne ⟨true, 0, []⟩ ++ [.segment 0 .closed [] []] ++ serviceOne ⟨true, 0, []⟩

theorem delivered_eq_received_of_reaches_short : ∃ s id c, Reaches (step ⟨.w64, .low⟩)
  (KeepsUp ⟨.w64, .low⟩) (.ok (.fresh .new)) (.ok s) ∧ (id, c) ∈ s.log.retired ∧
  c.sock.received = [65, 66] ∧ c.entry.toApp.delivered.flatten = c.sock.received := by
  rcases exists_reaches (step ⟨.w64, .low⟩) (KeepsUp ⟨.w64, .low⟩) (.ok (.fresh .new))
    (removedOne fun c => c.sock.received = [65, 66])
    shortDownload (by decide +kernel) (by decide +kernel)
    with ⟨σ, hRun, hEnd⟩
  rcases exists_of_removedOne hEnd with ⟨s, id, c, rfl, hMem, hEst, hAlive, hBytes⟩
  refine ⟨s, id, c, hRun, hMem, of_decide_eq_true hBytes, ?_⟩
  exact delivered_eq_received_of_reaches hRun hMem hEst hAlive

-- A Slow Reader

/- The application reads nothing while 128 bytes arrive one by one, which fill its queue. -/
def slowDownload : List Event := connectOne ++ (List.replicate 128
      (.segment 0 .established [7] [[7]] :: serviceOne ⟨true, 0, []⟩)).flatten ++
    [.segment 0 .closeWait [9] [[9]]] ++
    serviceOne ⟨true, 0, []⟩ ++
    [.segment 0 .closed [] [[9]]] ++
    serviceOne ⟨true, 0, []⟩

/- The connection is removed and the last byte is lost. -/
theorem removed_before_delivery : ∃ s id c, Reaches (step ⟨.w64, .low⟩)
  Always (.ok (.fresh .new)) (.ok s) ∧ (id, c) ∈ s.log.retired ∧ c.entry.established = true ∧
  c.entry.toApp.alive = true ∧ c.entry.toApp.delivered.flatten ≠ c.sock.received := by
  rcases exists_reaches (step ⟨.w64, .low⟩) Always (.ok (.fresh .new))
    (removedOne fun c => c.entry.toApp.delivered.flatten ≠ c.sock.received)
    slowDownload (taken_always _ _ _) (by decide +kernel)
    with ⟨σ, hRun, hEnd⟩
  rcases exists_of_removedOne hEnd with ⟨s, id, c, rfl, hMem, hEst, hAlive, hLost⟩
  exact ⟨s, id, c, hRun, hMem, hEst, hAlive, of_decide_eq_true hLost⟩

end Kourosh.Netstack
