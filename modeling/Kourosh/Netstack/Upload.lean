import Kourosh.Netstack.Download

/-
  What the peer gets of the application's stream.

  A visit closes a socket for three reasons: the application has half-closed and nothing is
  pending, the application is gone, or the peer has closed its half (CloseWait).

  Correctness is proven by:
    * `uploaded_before_close_of_reaches`
-/

-- Close Calls Of A Visit

namespace Kourosh.Netstack

open Run NetStack
open List

namespace Conn

/-
  A visit that finds an established connection in CloseWait finds its upload at the end: the
  application has half-closed, and `send_slice` takes all that is pending.
-/
def Ending (c : Conn) (visit : Visit) : Prop :=
  c.entry.established = true → c.entry.toApp.alive = true →
    c.sock.state = .closeWait → c.entry.halfClosed = true ∧ c.entry.pending.length ≤ visit.offered

instance decidableEnding (c : Conn) (visit : Visit) : Decidable (c.Ending visit) :=
  inferInstanceAs (Decidable (_ → _ → _ → _ ∧ _))

structure Ends (c : Conn) (call : CloseCall) : Prop where
  halfClosed : call.halfClosed = true
  entry : c.entry.halfClosed = true
  pending : call.pending = []
  accepted : call.accepted = c.sock.accepted ++ c.entry.pending

@[simp] lemma announce_kept (c : Conn) (taken : Bool) : (c.announce taken).sock = c.sock ∧
  (c.announce taken).entry.halfClosed = c.entry.halfClosed ∧
  (c.announce taken).entry.pending = c.entry.pending := by
  unfold announce
  split
  all_goals exact ⟨rfl, rfl, rfl⟩

variable {c : Conn} {visit : Visit} {call : CloseCall}

lemma call_of_uploaded (hCall : call ∈ (c.uploaded visit).sock.closes) :
  call ∈ c.sock.closes ∨ c.Ends call := by
  unfold uploaded endUpload at hCall
  split at hCall
  next hEnd =>
    simp only [Bool.and_eq_true, List.isEmpty_iff, upload_kept, announce_kept] at hEnd
    simp only [close, setSock,
      TcpSocket.close, upload_kept, announce_kept, mem_append, mem_singleton] at hCall
    rcases hCall with hOld | hNew
    · exact .inl hOld
    · right
      have hKeeps := (c.keeps_announce visit.taken).trans (keeps_upload _ visit.offered)
      have hAll := hKeeps.upload
      rw [hEnd.2, append_nil] at hAll
      subst hNew
      constructor
      · simpa using hEnd.1
      · exact hEnd.1
      · exact hEnd.2
      · exact hAll
  · left
    simpa using hCall

lemma call_of_downloaded (hCall : call ∈ (c.downloaded visit).sock.closes) :
  call ∈ (c.uploaded visit).sock.closes ∨ call.alive = false := by
  unfold downloaded leave at hCall
  split at hCall
  next hStopped =>
    have hGone := Channel.alive_eq_false_of_deliver hStopped
    rcases mem_append.mp hCall with hOld | hNew
    · exact .inl hOld
    · rw [mem_singleton.mp hNew]
      exact .inr hGone
  · exact .inl hCall

lemma state_of_close_eq_closeWait (state : State) : state.close ≠ .closeWait := by
  cases state <;> nofun

lemma downloaded_state_of_ending (hState : c.sock.state = .closeWait)
  (hHalf : c.entry.halfClosed) (hTaken : c.entry.pending.length ≤ visit.offered) :
  (c.downloaded visit).sock.state ≠ .closeWait := by
  have hUploaded : (c.uploaded visit).sock.state = .lastAck := by
    have hPending : ((c.announce visit.taken).upload visit.offered).entry.pending = [] := by
      simp [upload, hState, State.maySend, TcpState.setPending, drop_eq_nil_of_le hTaken]
    have hOpen : ((c.announce visit.taken).upload visit.offered).sock.state = .closeWait := by
      simp [upload, hState, State.maySend, TcpSocket.accept]
    have hEnd : (((c.announce visit.taken).upload visit.offered).entry.halfClosed &&
      ((c.announce visit.taken).upload visit.offered).entry.pending.isEmpty) := by
      rw [hPending]
      simp [hHalf]
    rw [uploaded, endUpload, if_pos hEnd]
    simp only [close, setSock, TcpSocket.close, hOpen]
    rfl
  intro hWait
  rcases c.closesOnly_received visit with hSame | hClose
  · rw [hUploaded] at hSame
    exact absurd (hSame.symm.trans hWait) (by decide)
  · exact state_of_close_eq_closeWait _ (hClose.symm.trans hWait)

lemma of_downloaded_closeWait (hWait : (c.downloaded visit).sock.state = .closeWait)
  (hEst : (c.downloaded visit).entry.established)
  (hAlive : (c.downloaded visit).entry.toApp.alive) :
  c.sock.state = .closeWait ∧ c.entry.established ∧ c.entry.toApp.alive := by
  have hState : c.sock.state = .closeWait := by
    rcases c.closesOnly_downloaded visit with hSame | hClose
    · exact hSame.symm.trans hWait
    · exact absurd (hClose.symm.trans hWait) (state_of_close_eq_closeWait _)
  have hBefore : c.entry.established := by
    rw [downloaded_established, announce] at hEst
    simpa [hState] using hEst
  refine ⟨hState, hBefore, ?_⟩
  simp only [downloaded, leave_kept, download, TcpState.setToApp, delivery_of_established hBefore]
    at hAlive
  exact Channel.alive_of_deliver hAlive

lemma call_of_service (hEnding : c.Ending visit)
  (hCall : call ∈ (c.service visit).1.sock.closes) (hEst : call.established)
  (hAlive : call.alive) : call ∈ c.sock.closes ∨ c.Ends call := by
  have hDownloaded :
    call ∈ (c.downloaded visit).sock.closes → call ∈ c.sock.closes ∨ c.Ends call := by
    intro hCall'
    rcases call_of_downloaded hCall' with hUp | hGone
    · exact call_of_uploaded hUp
    · rw [hGone] at hAlive
      cases hAlive
  unfold service at hCall
  split at hCall
  · left
    simpa using hCall
  · unfold closeWait at hCall
    simp only at hCall
    split at hCall
    next hWait =>
      rcases mem_append.mp hCall with hOld | hNew
      · exact hDownloaded hOld
      · rw [mem_singleton.mp hNew] at hEst hAlive
        rcases of_downloaded_closeWait hWait hEst hAlive with ⟨hState, hBefore, hThere⟩
        rcases hEnding hBefore hThere hState with ⟨hHalf, hTaken⟩
        exact absurd hWait (downloaded_state_of_ending hState hHalf hTaken)
    · exact hDownloaded hCall

end Conn

-- Queued Before The Close

def beforeClose (id : Nat) (msgs : List DataIn) : List DataIn :=
  msgs.takeWhile fun msg => msg ≠ .tcpClose id

variable {id : Nat} {p : Profile} {σ : Except Panic NetStack}

lemma beforeClose_append {msgs : List DataIn} (hClose : .tcpClose id ∈ msgs)
  (msgs' : List DataIn) : beforeClose id (msgs ++ msgs') = beforeClose id msgs := by
  induction msgs with
  | nil => cases hClose
  | cons msg msgs ih =>
    unfold beforeClose at ih ⊢
    by_cases hMsg : msg = .tcpClose id
    · simp [hMsg]
    · have hRest : .tcpClose id ∈ msgs := by
        rcases mem_cons.mp hClose with hHere | hLater
        · exact absurd hHere.symm hMsg
        · exact hLater
      simpa [hMsg] using ih hRest

lemma payloads_beforeClose_prefix (id : Nat) (msgs : List DataIn) :
  payloads id (beforeClose id msgs) <+: payloads id msgs := by
  have hSplit :=
    takeWhile_append_dropWhile (p := fun msg : DataIn => msg ≠ .tcpClose id) (l := msgs)
  refine ⟨payloads id (msgs.dropWhile fun msg => msg ≠ .tcpClose id), ?_⟩
  rw [beforeClose, ← payloads_append, hSplit]

/-
  A call for an application that is there comes behind its own close, and everything queued before
  that was accepted.
-/
def CloseCall.Late (id : Nat) (queued : List DataIn) (call : CloseCall) : Prop :=
  call.established = true → call.alive = true → call.pending = [] ∧ call.halfClosed = true ∧
    .tcpClose id ∈ queued ∧ payloads id (beforeClose id queued) <+: call.accepted

lemma CloseCall.Late.append {queued : List DataIn} {call : CloseCall}
  (hLate : call.Late id queued) (msgs : List DataIn) : call.Late id (queued ++ msgs) := by
  intro hEst hAlive
  rcases hLate hEst hAlive with ⟨hPending, hHalf, hClose, hBefore⟩
  refine ⟨hPending, hHalf, ?_, ?_⟩
  · exact mem_append_left _ hClose
  · rw [beforeClose_append hClose]
    exact hBefore

namespace Conn

variable {handled : List DataIn} {c : Conn}

structure Orderly (id : Nat) (handled : List DataIn) (c : Conn) : Prop where
  half : c.entry.halfClosed = true → .tcpClose id ∈ handled
  closes : ∀ call ∈ c.sock.closes, call.Late id handled

lemma Orderly.handle (hOrderly : Orderly id handled c) (msg : DataIn) :
  Orderly id (handled ++ [msg]) (c.handle id msg) := by
  have hCloses : ∀ call ∈ c.sock.closes, call.Late id (handled ++ [msg]) := by
    intro call hCall
    exact (hOrderly.closes call hCall).append _
  have hHalf : c.entry.halfClosed → .tcpClose id ∈ handled ++ [msg] := by
    intro hHalf
    exact mem_append_left _ (hOrderly.half hHalf)
  cases msg with
  | tcp =>
    rw [Conn.handle]
    split
    all_goals exact ⟨hHalf, hCloses⟩
  | tcpClose i =>
    rw [Conn.handle]
    split
    next hId =>
      subst hId
      refine ⟨?_, hCloses⟩
      intro _
      simp
    · exact ⟨hHalf, hCloses⟩
  | udp | udpClose => exact ⟨hHalf, hCloses⟩

lemma service_halfClosed (c : Conn) (visit : Visit) :
  (c.service visit).1.entry.halfClosed = c.entry.halfClosed := by
  unfold service
  split
  · simp
  · simp [downloaded, download, TcpState.setToApp, uploaded]

lemma Orderly.service {visit : Visit} (hOrderly : Orderly id handled c)
  (hSep : Separate id handled c) (hEnding : c.Ending visit) :
  Orderly id handled (c.service visit).1 where
  half := by
    rw [service_halfClosed]
    exact hOrderly.half
  closes := by
    intro call hCall hEst hAlive
    rcases call_of_service hEnding hCall hEst hAlive with hOld | hEnds
    · exact hOrderly.closes call hOld hEst hAlive
    · refine ⟨hEnds.pending, hEnds.halfClosed, hOrderly.half hEnds.entry, ?_⟩
      rw [hEnds.accepted, hSep.upload]
      exact payloads_beforeClose_prefix id handled

lemma Orderly.acts (hOrderly : Orderly id handled c)
  (moves : List Channel.Move) : Orderly id handled (c.setEntry (c.entry.acts moves)) := by
  unfold TcpState.acts
  split
  · exact hOrderly
  · exact ⟨hOrderly.half, hOrderly.closes⟩

end Conn

-- Runs

namespace NetStack

variable {s s' : NetStack} {e : Event}

structure Orderly (s : NetStack) : Prop where
  conns : ∀ id c, s.tables.conn id = some c → c.Orderly id s.log.handled
  retired : ∀ x ∈ s.log.retired, ∀ call ∈ x.2.sock.closes, call.Late x.1 s.log.handled

lemma orderly_fresh (iface : Interface) : (fresh iface).Orderly where
  conns := nofun
  retired := nofun

lemma orderly_of_origin
  {c : Conn} (hSep : s.Separated) (hOrderly : s.Orderly) (hOk : s.OnVisits Conn.Ending p e)
  (hLogged : Logged p s e s') (hOrigin : Origin p s s' e id c) : c.Orderly id s'.log.handled := by
  cases hOrigin with
  | kept hQuiet hConn =>
    rw [handled_of_quiet hLogged hQuiet]
    exact hOrderly.conns _ _ hConn
  | opened =>
    refine ⟨nofun, ?_⟩
    exact nofun
  | handled hData hConn =>
    rw [handled_of_data hLogged hData]
    exact (hOrderly.conns _ _ hConn).handle _
  | polled hConn =>
    rw [handled_of_quiet hLogged rfl]
    have hOld := hOrderly.conns _ _ hConn
    exact ⟨hOld.half, hOld.closes⟩
  | acted hConn =>
    rw [handled_of_quiet hLogged rfl]
    exact (hOrderly.conns _ _ hConn).acts _
  | @visited _ _ _ c' hPhase hConn =>
    rw [handled_of_quiet hLogged rfl]
    exact (hOrderly.conns _ _ hConn).service (hSep.conns _ _ hConn)
      (hOk.2 c' (mem_visited hPhase hConn))

lemma late_of_retired (hNamed : s.Named p) (hSep : s.Separated)
  (hOrderly : s.Orderly) (hOk : s.OnVisits Conn.Ending p e) (hLogged : Logged p s e s') :
  ∀ x ∈ s'.log.retired, ∀ call ∈ x.2.sock.closes, call.Late x.1 s'.log.handled := by
  intro x hMem call hCall
  rcases handled_of_logged hLogged with ⟨msgs, hHandled⟩
  rw [hHandled]
  cases gone_of_logged hLogged hMem with
  | before hOld => exact (hOrderly.retired x hOld call hCall).append msgs
  | replaced hOpens _ hOld =>
    rw [hNamed.replaced_eq_nil (hOk.1 hOpens)] at hOld
    cases hOld
  | @removed _ _ _ c' hPhase hConn =>
    have hAfter := (hOrderly.conns _ _ hConn).service
      (hSep.conns _ _ hConn) (hOk.2 c' (mem_visited hPhase hConn))
    exact (hAfter.closes call hCall).append msgs

end NetStack

abbrev EndsUploads (p : Profile) : Except Panic NetStack → Event → Prop := OnVisits Conn.Ending p

def InOrder (p : Profile) : Except Panic NetStack → Prop
| .ok s => s.log.created.length ≤ idCount p ∧ s.Orderly
| .error _ => True

lemma inOrder_step
  {σ' : Except Panic NetStack} {e : Event} (hSane : Sane p σ) (hInOrder : InOrder p σ)
  (hOk : EndsUploads p σ e) (hStep : step p σ e = some σ') : InOrder p σ' := by
  cases σ with
  | error => cases hStep
  | ok s =>
    cases σ' with
    | error => trivial
    | ok =>
      have hSound : s.Sound p := hSane
      have hCons := hSound.consistent
      have hLogged := logged_of_next hCons hStep
      rcases hInOrder with ⟨hCount, hOrderly⟩
      have hSep := hSound.separated hCount
      refine ⟨?_, ?_, ?_⟩
      · exact length_created_of_next hOk.1 hCount hLogged
      · intro id c hConn
        exact orderly_of_origin hSep hOrderly hOk hLogged
          (origin_of_next hCons hStep hConn)
      · exact late_of_retired hSound.named hSep hOrderly hOk hLogged

lemma inOrder_of_reaches {iface : Interface}
  (hRun : Reaches (step p) (EndsUploads p) (.ok (.fresh iface)) σ) : InOrder p σ := by
  apply Reaches.invariant_of (I := InOrder p) (J := Sane p) _ _ _ hRun
  · intro σ hReached
    exact sane_of_reaches hReached
  · exact ⟨Nat.zero_le _, orderly_fresh iface⟩
  · intro σ σ' e hSane hInOrder hOk hStep
    exact inOrder_step hSane hInOrder hOk hStep

def NetStack.Has (s : NetStack) (id : Nat) (c : Conn) : Prop :=
  s.tables.conn id = some c ∨ (id, c) ∈ s.log.retired

/-
  In every run whose uploads in CloseWait are at their end when visited, the bytes a socket
  accepted are a beginning of what was queued under its id, and a call of `close` for an
  application that is there comes behind the application's own close, with everything queued
  before it accepted.
-/
theorem uploaded_before_close_of_reaches
    {p : Profile}
    {iface : Interface}
    {s : NetStack}
    (hRun : Reaches (step p) (EndsUploads p) (.ok (.fresh iface)) (.ok s))
    {id : Nat}
    {c : Conn}
    (hConn : s.Has id c) :
    c.sock.accepted <+: payloads id s.queued ∧
    ∀ call ∈ c.sock.closes,
      call.established = true →
      call.alive = true →
      call.pending = [] ∧
      call.halfClosed = true ∧
      .tcpClose id ∈ s.queued ∧
      payloads id (beforeClose id s.queued) <+: call.accepted := by
  have hInOrder := inOrder_of_reaches hRun
  have hSound : s.Sound p := sane_of_reaches hRun
  rcases hInOrder with ⟨hCount, hOrderly⟩
  have hIsolated := (hSound.separated hCount).isolated
  rcases hConn with hLive | hRetired
  · refine ⟨(hIsolated.conns id c hLive).accepted, ?_⟩
    intro call hCall
    have hLate := (hOrderly.conns id c hLive).closes call
    exact (hLate hCall).append s.dataIn
  · have hPrivate := hIsolated.retired (id, c) hRetired
    refine ⟨hPrivate.accepted, ?_⟩
    intro call hCall
    have hLate := hOrderly.retired (id, c) hRetired call
    exact (hLate hCall).append s.dataIn

def liveOne (q : Conn → Bool) (σ : Except Panic NetStack) : Bool :=
  match σ with
  | .ok s => (s.tables.conn 1).any q
  | .error _ => false

lemma exists_of_liveOne {q : Conn → Bool} (hLive : liveOne q σ) :
  ∃ s c, σ = .ok s ∧ s.Has 1 c ∧ q c := by
  cases σ with
  | error => cases hLive
  | ok s =>
    rcases (Option.any_eq_true _ _).mp hLive with ⟨c, hConn, hHolds⟩
    exact ⟨s, c, rfl, .inl hConn, hHolds⟩

def politeUpload : List Event := connectOne ++ [.queue (.tcp 1 [65, 66]), .queue (.tcpClose 1),
      .data true, .data true,
      .segment 0 .closeWait [] []] ++
    serviceOne ⟨true, 1460, []⟩

theorem uploaded_before_close_of_reaches_polite :
  ∃ s c call, Reaches (step ⟨.w64, .low⟩) (EndsUploads ⟨.w64, .low⟩) (.ok (.fresh .new)) (.ok s) ∧
  s.Has 1 c ∧ call ∈ c.sock.closes ∧ call.established = true ∧
  call.alive = true ∧ payloads 1 (beforeClose 1 s.queued) <+: call.accepted := by
  rcases exists_reaches (step ⟨.w64, .low⟩) (EndsUploads ⟨.w64, .low⟩) (.ok (.fresh .new))
    (liveOne fun c => c.sock.closes.any fun call => call.established && call.alive)
    politeUpload (by decide +kernel) (by decide +kernel)
    with ⟨σ, hRun, hEnd⟩
  rcases exists_of_liveOne hEnd with ⟨s, c, rfl, hHas, hAny⟩
  rcases any_eq_true.mp hAny with ⟨call, hCall, hBoth⟩
  simp only [Bool.and_eq_true] at hBoth
  refine ⟨s, c, call, hRun, hHas, hCall, hBoth.1, hBoth.2, ?_⟩
  have hAll := (uploaded_before_close_of_reaches hRun hHas).2
  exact (hAll call hCall hBoth.1 hBoth.2).2.2.2

-- A Peer That Closes First

/-
  The peer closes its half while the application still sends:
  the socket has room for one of two bytes.
-/
def cutUpload : List Event := connectOne ++ [.queue (.tcp 1 [65, 66]), .data true,
      .segment 0 .closeWait [] []] ++
    serviceOne ⟨true, 1, []⟩

/- The socket is closed with the second byte pending. -/
theorem closed_with_pending : ∃ s id c call, Reaches (step ⟨.w64, .low⟩) Always
  (.ok (.fresh .new)) (.ok s) ∧ s.Has id c ∧ call ∈ c.sock.closes ∧ call.established = true ∧
  call.alive = true ∧ call.halfClosed = false ∧ call.pending = [66] := by
  rcases exists_reaches (step ⟨.w64, .low⟩) Always (.ok (.fresh .new)) (liveOne fun c =>
        c.sock.closes.any fun call =>
          call.established && call.alive && !call.halfClosed && call.pending = [66])
      cutUpload (taken_always _ _ _) (by decide +kernel)
    with ⟨σ, hRun, hEnd⟩
  rcases exists_of_liveOne hEnd with ⟨s, c, rfl, hHas, hAny⟩
  rcases any_eq_true.mp hAny with ⟨call, hCall, hAll⟩
  simp only [Bool.and_eq_true, Bool.not_eq_true', decide_eq_true_eq] at hAll
  exact ⟨s, 1, c, call, hRun, hHas, hCall, hAll.1.1.1, hAll.1.1.2, hAll.1.2, hAll.2⟩

end Kourosh.Netstack
