import Mathlib.Data.List.TakeDrop
import Kourosh.Tun2socks.Reassembly

/-
  The FIN of an app.

  The handler drops the entry of the port and returns.

  Correctness is proven by:
    * `fin_drops_payload_unacknowledged`
-/

-- Responses

namespace Kourosh.Tun2socks

open List
open Function

def Stamp.isData (f : Nat) (stamp : Stamp) : Bool :=
  stamp.flow == some f && stamp.packet.flags == 0x18

namespace Bridge

open Run

variable {s s' : Bridge} {f : Nat}

def delivered (s : Bridge) (f : Nat) : Bytes :=
  (s.tun.filter (Stamp.isData f)).flatMap fun stamp => stamp.packet.payload

def receivedBy (f : Nat) : Event → Bytes
| .reader g (.recv data) => if g = f then data else []
| _ => []

def received (f : Nat) (events : List Event) : Bytes := events.flatMap (receivedBy f)

variable {stamp : Stamp} {g : Nat} {e : Event} {events : List Event}
variable {s₀ : Bridge} {bytes : Bytes} {seg : Segment}

attribute [local simp] setFlow receivedBy removeConn FlowKey.toApp stamp setHandler received

lemma delivered_of_append (hTun : s'.tun = s.tun ++ [stamp])
  (hData : Stamp.isData f stamp = false) : s'.delivered f = s.delivered f := by
  simp [delivered, hTun, hData]

lemma delivered_of_flags (hTun : s'.tun = s.tun ++ [stamp])
  (hFlags : stamp.packet.flags ≠ 0x18) : s'.delivered f = s.delivered f := by
  apply delivered_of_append hTun
  simp [Stamp.isData, hFlags]

lemma delivered_receive (bytes : Bytes) (isn : UInt32) (app : Nat) :
  (s.receive bytes isn app).delivered f = s.delivered f := by
  unfold receive
  cases dispatch bytes with
  | skip | udp => rfl
  | tcp inbound =>
    simp only
    cases parseTcp inbound with
    | short | panics => rfl
    | segment seg =>
      rcases exists_noteApp s seg app with ⟨apps, hApps⟩
      simp only [hApps, handleTcp]
      split
      · rfl
      · split
        · unfold handleSyn
          split
          · apply delivered_of_append rfl
            rfl
          · split
            · split
              · rfl
              · apply delivered_of_flags rfl
                simp [answer]
            · rfl
        · split
          · unfold handleData
            split
            · rfl
            · split
              · rfl
              · dsimp only
                split
                all_goals rfl
          · rfl

lemma delivered_resume (hStep : s.resume = some s') : s'.delivered f = s.delivered f := by
  unfold resume at hStep
  split at hStep
  · cases hStep
  · cases hStep
    rfl
  next seg off tx hHandler =>
    cases hStep
    cases tx with
    | none => rfl
    | some =>
      unfold forward
      dsimp only
      split
      all_goals rfl
  · cases hStep
    unfold reply
    split
    · rfl
    · apply delivered_of_flags rfl
      simp [answer]
  · cases hStep

section

variable {e : ConnectEvent} (hStep : s.connectTask g e = some s')

include hStep

/-
  A connect task: its packets carry no data, one of an established flow carries the flow's counter,
  and the reader is left alone or spawned.
-/
lemma connectTask_spec : (s'.tun = s.tun ∨
  ∃ kept packet, s'.tun = s.tun ++ [⟨some g, kept, packet⟩] ∧ packet.flags ≠ 0x18 ∧
  (packet.ack = (s.flows g).ackShared ∨ (s.flows g).task = .connecting)) ∧
  ((s'.flows g).reader = (s.flows g).reader ∨ (s'.flows g).reader = .running) := by
  unfold connectTask at hStep
  simp only at hStep
  split at hStep
  · -- abort
    cases hStep
    exact ⟨.inl rfl, .inl (by simp)⟩
  · -- succeed
    split at hStep
    · split at hStep
      all_goals
        cases hStep
        exact ⟨.inl rfl, .inl (by simp)⟩
    · cases hStep
      exact ⟨.inl rfl, .inl (by simp)⟩
  · -- store
    cases hStep
    exact ⟨.inl rfl, .inl (by simp)⟩
  · -- install
    cases hStep
    exact ⟨.inl rfl, .inl (by simp [insertConn, Flow.install])⟩
  · -- spawn both
    cases hStep
    exact ⟨.inl rfl, .inr (by simp)⟩
  · -- spawn writerOnly
    cases hStep
    exact ⟨.inl rfl, .inl (by simp)⟩
  · -- spawn panics
    cases hStep
    exact ⟨.inl rfl, .inl (by simp)⟩
  · -- synAck
    cases hStep
    exact ⟨.inr ⟨_, _, rfl, by simp, .inl rfl⟩, .inl (by simp)⟩
  · -- fail
    rename_i hTask
    cases hStep
    exact ⟨.inr ⟨_, _, rfl, by simp, .inr hTask⟩, .inl (by simp)⟩
  · -- evict
    cases hStep
    exact ⟨.inl rfl, .inl (by simp)⟩
  · cases hStep

lemma delivered_connectTask : s'.delivered f = s.delivered f := by
  rcases (connectTask_spec hStep).1 with hSame | ⟨kept, packet, hTun, hFlags, -⟩
  · rw [delivered, delivered, hSame]
  · exact delivered_of_flags hTun hFlags

end

def Serving (f : Nat) (s : Bridge) : Prop :=
  (s.flows f).reader = .running ∨ ∃ seq n, (s.flows f).reader = .advancing seq n

/- A reader: what it delivers, with which counter, and that it goes on until it stops. -/
lemma tunResponseReader_spec {e : ReaderEvent} (hStep : s.tunResponseReader g e = some s') :
  s'.delivered f = s.delivered f ++ receivedBy f (.reader g e) ∧ (s'.tun = s.tun ∨
  ∃ kept packet, s'.tun = s.tun ++ [⟨some g, kept, packet⟩] ∧ packet.ack = (s.flows g).ackShared) ∧
  (Serving g s → (∀ cause, e ≠ .stop cause) → Serving g s') := by
  unfold tunResponseReader at hStep
  simp only at hStep
  split at hStep
  · -- recv
    rename_i data hReader
    split at hStep
    · cases hStep
      refine ⟨?_, .inr ⟨_, _, rfl, rfl⟩, fun _ _ => .inr ⟨(s.flows g).seqShared, data.length, by simp⟩⟩
      by_cases hEq : g = f
      · simp [delivered, Stamp.isData, hEq]
      · simp [delivered, Stamp.isData, hEq]
    · cases hStep
  · -- advance
    cases hStep
    exact ⟨by simp [delivered], .inl rfl, fun _ _ => .inl (by simp)⟩
  · -- stop
    rename_i cause hReader
    cases hStep
    refine ⟨?_, .inr ⟨_, _, rfl, rfl⟩, fun _ hGoes => absurd rfl (hGoes cause)⟩
    simp only [receivedBy, append_nil]
    apply delivered_of_flags rfl
    cases cause with
    | idleTimeout | endOfStream | readError => simp [Stop.flags]
  · -- evict
    rename_i hReader
    cases hStep
    refine ⟨by simp [delivered], .inl rfl, fun hServing _ => ?_⟩
    simp [Serving, hReader] at hServing
  · cases hStep

lemma socksWriterTask_spec {e : WriterEvent} (hStep : s.socksWriterTask g e = some s') :
  ∃ flow, s' = s.setFlow g flow ∧ flow.reader = (s.flows g).reader := by
  unfold socksWriterTask at hStep
  simp only at hStep
  split at hStep
  · split at hStep
    · cases hStep
    · cases hStep
      exact ⟨_, rfl, rfl⟩
  · cases hStep
    exact ⟨_, rfl, rfl⟩
  · cases hStep
    exact ⟨_, rfl, rfl⟩
  · cases hStep

lemma delivered_step (hStep : s.step e = some s') :
  s'.delivered f = s.delivered f ++ receivedBy f e := by
  cases e with
  | packet =>
    simp only [step] at hStep
    split at hStep
    · cases hStep
      simp [delivered_receive]
    · cases hStep
  | resume => simp [delivered_resume hStep]
  | connect => simp [delivered_connectTask hStep]
  | reader => exact (tunResponseReader_spec hStep).1
  | writer =>
    rcases socksWriterTask_spec hStep with ⟨flow, rfl, -⟩
    simp [delivered]

lemma delivered_exec (hExec : exec step s events = some s') :
  s'.delivered f = s.delivered f ++ received f events := by
  induction events generalizing s with
  | nil =>
    cases hExec
    simp
  | cons _ _ ih =>
    rcases Option.bind_eq_some_iff.mp hExec with ⟨s₁, hStep, hRest⟩
    rw [ih hRest, delivered_step hStep]
    simp

-- The Reader Goes On

lemma reader_of_stepped (hLt : f < s.count)
  (hOther : ¬ e.isOf f) (hStep : Stepped s e s') : (s'.flows f).reader = (s.flows f).reader := by
  have hSet : ∀ {g : Nat} {flow : Flow}, f ≠ g →
    ((s.setFlow g flow).flows f).reader = (s.flows f).reader := by
    intro g flow hNe
    simp [hNe]
  cases hStep with
  | @advance _ _ _ seg conn off apps hSeg hData hConn hConnected hIdle hAction =>
    by_cases hEq : f = conn.flow
    · subst hEq
      simp [Flow.storeAck]
    · exact hSet hEq
  | accept => rw [flows_accept_of_ne (by omega)]
  | @enqueue _ _ g =>
    by_cases hEq : f = g
    · subst hEq
      simp [Flow.setChannel]
    · exact hSet hEq
  | @work _ _ _ hOf | @send _ _ _ _ hOf | @evict _ _ _ hOf =>
    refine hSet ?_
    rintro rfl
    exact hOther hOf
  | install =>
    refine hSet ?_
    rintro rfl
    exact hOther rfl
  | _ => rfl

lemma Serving.of_eq (hServing : Serving f s)
  (hReader : (s'.flows f).reader = (s.flows f).reader) : Serving f s' := by
  unfold Serving at hServing ⊢
  rw [hReader]
  exact hServing

lemma serving_step (hLt : f < s.count) (hServing : Serving f s)
  (hGoes : ∀ cause, e ≠ .reader f (.stop cause)) (hStep : s.step e = some s') : Serving f s' := by
  by_cases hOf : e.isOf f
  · cases e with
    | packet | resume => exact hOf.elim
    | connect =>
      cases hOf
      rcases (connectTask_spec hStep).2 with hSame | hRunning
      · exact hServing.of_eq hSame
      · exact .inl hRunning
    | reader =>
      cases hOf
      refine (@tunResponseReader_spec _ _ f f _ hStep).2.2 hServing ?_
      rintro cause rfl
      exact hGoes cause rfl
    | writer =>
      cases hOf
      rcases socksWriterTask_spec hStep with ⟨flow, rfl, hReader⟩
      exact hServing.of_eq (by simp [hReader])
  · exact hServing.of_eq (reader_of_stepped hLt hOf (stepped_of_step hStep))

lemma delivers_of_serving
  (hServing : Serving f s) {data : Bytes} (hPos : 0 < data.length) (hFits : data.length ≤ 65535) :
  ∃ more s', exec step s more = some s' ∧ s'.delivered f = s.delivered f ++ data := by
  have hRead : ∀ {s₁ : Bridge}, (s₁.flows f).reader = .running →
    ∃ s', s₁.step (.reader f (.recv data)) = some s' := by
    intro s₁ hRunning
    simp [step, tunResponseReader, hRunning, hPos, hFits]
  rcases hServing with hRunning | ⟨seq, n, hAdvancing⟩
  · rcases hRead hRunning with ⟨s', hStep⟩
    refine ⟨[.reader f (.recv data)], s', ?_, ?_⟩
    · simp [exec, hStep]
    · rw [delivered_step hStep]
      simp
  · have hAdvance : s.step (.reader f .advance) = some (s.setFlow f { s.flows f with
      reader := .running
      seqShared := seq + UInt32.ofNat n }) := by
      simp [step, tunResponseReader, hAdvancing]
    have hRunning : ((s.setFlow f { s.flows f with
          reader := .running
          seqShared := seq + UInt32.ofNat n }).flows f).reader =
        .running := by simp
    rcases hRead hRunning with ⟨s', hStep⟩
    refine ⟨[.reader f .advance, .reader f (.recv data)], s', ?_, ?_⟩
    · simp [exec, hAdvance, hStep, -setFlow]
    · rw [delivered_step hStep, delivered_step hAdvance]
      simp

-- A Flow Without An Entry

structure Left (f : Nat) (s : Bridge) : Prop where
  wf : WellFormed s
  installed : s.Installed f
  entry : ∀ port conn, s.conns port = some conn → conn.flow ≠ f
  free : s.holding f = false

lemma installed_step (hWF : WellFormed s)
  (hInstalled : s.Installed f) (hStep : Stepped s e s') : s'.Installed f := by
  cases hStep with
  | advance apps => exact installed_setFlow (s := { s with apps }) id hInstalled
  | accept =>
    have hLt := hWF.lt_count_of_installed hInstalled
    rw [Installed, flows_accept_of_ne (by omega)]
    exact hInstalled
  | enqueue => exact installed_setFlow (s := s) id hInstalled
  | work _ hWorks => exact installed_setFlow hWorks.installed hInstalled
  | send _ _ hWorks | evict _ _ hWorks =>
    exact installed_setFlow (s := s) hWorks.installed hInstalled
  | install => exact installed_setFlow (s := s) (fun _ => rfl) hInstalled
  | _ => exact hInstalled

section

variable (hLeft : Left f s) (hStep : Stepped s e s')

include hLeft hStep

lemma Left.entry_step
  {port : UInt16} {conn : TcpConn} (hConn : s'.conns port = some conn) : conn.flow ≠ f := by
  have hOld := hLeft.entry port conn
  cases hStep with
  | close apps => exact hOld (conns_of_removeConn (s := { s with apps }) hConn)
  | @accept seg =>
    have hLt := hLeft.wf.lt_count_of_installed hLeft.installed
    by_cases hPort : port = seg.sport
    · subst hPort
      simp only [accept, update_self, Option.some.injEq] at hConn
      rw [← hConn]
      exact Nat.ne_of_gt hLt
    · simp only [accept, update_of_ne hPort] at hConn
      exact hOld hConn
  | @install g hTask =>
    by_cases hPort : port = (s.flows g).key.sport
    · subst hPort
      simp only [insertConn, update_self, Option.some.injEq] at hConn
      rw [← hConn]
      rintro rfl
      have hInstalled := hLeft.installed
      rw [Installed, hTask] at hInstalled
      cases hInstalled
    · simp only [insertConn, update_of_ne hPort] at hConn
      exact hOld hConn
  | @evict _ g flow => exact hOld (conns_of_removeConn (s := s.setFlow g flow) hConn)
  | _ => exact hOld hConn

lemma Left.free_step : s'.holding f = false := by
  cases hStep with
  | panic | pass | hold | accept | lose | enqueue | finish | acknowledge => rfl
  | @advance _ _ _ seg conn off apps hSeg hData hConn hConnected hIdle hAction =>
    have hTx := ((hLeft.wf.conns _ _ hConn).2.2 hConnected).1
    have hNe := hLeft.entry _ _ hConn
    simp [holding, hTx, hNe]
  | _ => exact hLeft.free

lemma Left.step : Left f s' where
  wf := wellFormed_step hLeft.wf hStep
  installed := installed_step hLeft.wf hLeft.installed hStep
  entry := fun _ _ hConn => hLeft.entry_step hStep hConn
  free := hLeft.free_step hStep

lemma Left.upload_step :
  (s'.flows f).ackShared = (s.flows f).ackShared ∧ s'.enqueued f = s.enqueued f := by
  have hStores : Stores f s e := by
    cases e with
    | resume =>
      intro hHolding
      rw [hLeft.free] at hHolding
      cases hHolding
    | packet | connect | reader | writer => trivial
  cases uploaded_of_stepped hLeft.wf hStores hStep with
  | same _ hAck hTaken =>
    refine ⟨hAck, ?_⟩
    rw [taken, taken, inHand_of_holding hLeft.free,
      inHand_of_holding (hLeft.free_step hStep), append_nil, append_nil] at hTaken
    exact hTaken
  | accepted =>
    have hLt := hLeft.wf.lt_count_of_installed hLeft.installed
    omega
  | grown hEvent hSeg hData hConn hConnected hFlow hAction hKey hAck hTaken =>
    exact absurd hFlow (hLeft.entry _ _ hConn)

end

lemma Left.tun_handler (hLeft : Left f s) (hHandler : ∀ g, ¬ e.isOf g) (hStep : Stepped s e s') :
  s'.tun = s.tun ∨ ∃ stamp, s'.tun = s.tun ++ [stamp] ∧ stamp.flow ≠ some f := by
  cases hStep with
  | refuse => exact .inr ⟨_, rfl, by simp⟩
  | repeatSyn _ _ _ hConn | acknowledge _ _ hConn =>
    exact .inr ⟨_, rfl, by simpa using hLeft.entry _ _ hConn⟩
  | work hOf | send _ hOf | evict hOf => exact absurd hOf (hHandler _)
  | install => exact absurd rfl (hHandler _)
  | _ => exact .inl rfl

lemma Left.tun_step (hLeft : Left f s)
  (hStep : s.step e = some s') : s'.tun = s.tun ∨ ∃ stamp, s'.tun = s.tun ++ [stamp] ∧
  (stamp.flow = some f → stamp.packet.ack = (s.flows f).ackShared) := by
  have hOfHandler : (∀ g, ¬ e.isOf g) → s'.tun = s.tun ∨ ∃ stamp, s'.tun = s.tun ++ [stamp] ∧
    (stamp.flow = some f → stamp.packet.ack = (s.flows f).ackShared) := by
    intro hHandler
    rcases hLeft.tun_handler hHandler (stepped_of_step hStep) with hSame | ⟨stamp, hTun, hFlow⟩
    · exact .inl hSame
    · exact .inr ⟨stamp, hTun, fun hEq => absurd hEq hFlow⟩
  cases e with
  | packet | resume => exact hOfHandler fun _ => id
  | connect =>
    rcases (connectTask_spec hStep).1 with hSame | ⟨kept, packet, hTun, -, hAck⟩
    · exact .inl hSame
    · refine .inr ⟨_, hTun, ?_⟩
      rintro ⟨⟩
      rcases hAck with hAck | hTask
      · exact hAck
      · have hInstalled := hLeft.installed
        rw [Installed, hTask] at hInstalled
        cases hInstalled
  | reader =>
    rcases (@tunResponseReader_spec _ _ f _ _ hStep).2.1 with hSame | ⟨kept, packet, hTun, hAck⟩
    · exact .inl hSame
    · refine .inr ⟨_, hTun, ?_⟩
      rintro ⟨⟩
      exact hAck
  | writer =>
    rcases socksWriterTask_spec hStep with ⟨flow, rfl, -⟩
    exact .inl rfl

-- Behind The FIN

/-
  What stays as it was in `s₀` once the entry of the flow is gone: the counter and the bytes
  enqueued.
-/
structure ClosedBy (f : Nat) (s₀ s : Bridge) : Prop where
  left : Left f s
  ack : (s.flows f).ackShared = (s₀.flows f).ackShared
  enqueued : s.enqueued f = s₀.enqueued f
  tun : ∃ stamps, s.tun = s₀.tun ++ stamps ∧
    ∀ stamp ∈ stamps, stamp.flow = some f → stamp.packet.ack = (s₀.flows f).ackShared

lemma closedBy_step (hClosed : ClosedBy f s₀ s) (hStep : s.step e = some s') :
  ClosedBy f s₀ s' := by
  have hStepped := stepped_of_step hStep
  rcases hClosed.left.upload_step hStepped with ⟨hAck, hEnqueued⟩
  refine ⟨hClosed.left.step hStepped, hAck.trans hClosed.ack, hEnqueued.trans hClosed.enqueued, ?_⟩
  rcases hClosed.tun with ⟨stamps, hTun, hRepeat⟩
  rcases hClosed.left.tun_step hStep with hSame | ⟨stamp, hMore, hNew⟩
  · exact ⟨stamps, hSame.trans hTun, hRepeat⟩
  · refine ⟨stamps ++ [stamp], ?_, ?_⟩
    · rw [hMore, hTun, append_assoc]
    · refine forall_mem_append.mpr ⟨hRepeat, forall_mem_singleton.mpr fun hFlow => ?_⟩
      rw [hNew hFlow, hClosed.ack]

lemma closedBy_exec
  (hClosed : ClosedBy f s₀ s) (hExec : exec step s events = some s') : ClosedBy f s₀ s' := by
  have hRun := Reaches.start.of_exec hExec (taken_always step s events)
  exact hRun.invariant hClosed fun hClosed _ hStep => closedBy_step hClosed hStep

lemma serving_exec
  (hLeft : Left f s) (hServing : Serving f s) (hGoes : ∀ cause, .reader f (.stop cause) ∉ events)
  (hExec : exec step s events = some s') : Serving f s' := by
  induction events generalizing s with
  | nil =>
    cases hExec
    exact hServing
  | cons _ _ ih =>
    rcases Option.bind_eq_some_iff.mp hExec with ⟨s₁, hStep, hRest⟩
    have hLt := hLeft.wf.lt_count_of_installed hLeft.installed
    refine ih (hLeft.step (stepped_of_step hStep)) (serving_step hLt hServing ?_ hStep) ?_ hRest
    · rintro cause rfl
      exact hGoes cause mem_cons_self
    · intro cause hMem
      exact hGoes cause (mem_cons_of_mem _ hMem)

/-
  The packet is the FIN that ends the upload of an established flow: it is in order and carries
  what is left of the stream, if anything.
-/
structure EndsUpload (stream : Bytes) (f : Nat) (s : Bridge) (bytes : Bytes)
  (seg : Segment) : Prop where
  read : bytes.length ≤ 65535
  parsed : segmentOf bytes = some seg
  fin : seg.isFin = true
  entry : ∃ conn, s.conns seg.sport = some conn ∧ conn.flow = f ∧ conn.connecting = false
  order : seg.seqNum = (s.flows f).ackShared
  rest : seg.payload = stream.drop (s.next f)

/- A packet written since `s₀` acknowledges `number`. -/
def Acknowledges (f : Nat) (number : UInt32) (s₀ s : Bridge) : Prop :=
  ∃ stamp ∈ s.tun.drop s₀.tun.length, stamp.flow = some f ∧ stamp.packet.ack = number

def finAck (seg : Segment) : UInt32 := seg.stop + 1

lemma receive_of_closes (hSeg : segmentOf bytes = some seg) (hCloses : seg.closes) (isn : UInt32)
  (app : Nat) : ∃ apps, s.receive bytes isn app = { s with apps }.removeConn seg.sport := by
  unfold segmentOf at hSeg
  unfold receive
  cases hDispatch : dispatch bytes with
  | skip | udp => simp [hDispatch] at hSeg
  | tcp inbound =>
    rw [hDispatch] at hSeg
    simp only at hSeg ⊢
    cases hParse : parseTcp inbound with
    | short | panics => simp [hParse] at hSeg
    | segment =>
      rw [hParse] at hSeg
      cases hSeg
      rcases exists_noteApp s seg app with ⟨apps, hApps⟩
      refine ⟨apps, ?_⟩
      simp only [hApps, handleTcp, if_pos hCloses]

lemma EndsUpload.closedBy {stream : Bytes} {isn : UInt32} {app : Nat} (hWF : WellFormed s)
  (hFin : EndsUpload stream f s bytes seg) (hStep : s.step (.packet bytes isn app) = some s') :
  s.handler = .idle ∧ ClosedBy f s s' ∧ s'.flows = s.flows := by
  have hCloses : seg.closes := by simp [Segment.closes, hFin.fin]
  simp only [step] at hStep
  by_cases hIdle : s.handler = .idle
  · rw [if_pos hIdle] at hStep
    rcases receive_of_closes (s := s) hFin.parsed hCloses isn app with ⟨apps, hReceive⟩
    rw [hReceive] at hStep
    cases hStep
    rcases hFin.entry with ⟨conn, hConn, rfl, hConnected⟩
    rcases hWF.conns _ _ hConn with ⟨_, hPort, hTx⟩
    refine ⟨hIdle, ⟨⟨?_, (hTx hConnected).2, ?_, ?_⟩, rfl, rfl, ⟨[], by simp, by simp⟩⟩, rfl⟩
    · exact (hWF.withApps apps).removeConn _
    · -- the entries of a flow are under its own port
      intro port conn' hConn' hEq
      by_cases hSame : port = seg.sport
      · subst hSame
        simp at hConn'
      · have hOld : s.conns port = some conn' := conns_of_removeConn (s := { s with apps }) hConn'
        have hPort' := (hWF.conns _ _ hOld).2.1
        rw [hEq, hPort] at hPort'
        exact hSame hPort'.symm
    · simp [holding, hIdle]
  · rw [if_neg hIdle] at hStep
    cases hStep

lemma length_payload_le (hSeg : segmentOf bytes = some seg) :
  seg.payload.length ≤ bytes.length := by
  unfold segmentOf dispatch at hSeg
  split at hSeg
  next inbound hDispatch =>
    have hPacket : inbound.packet = bytes := by
      split at hDispatch
      · cases hDispatch
      · split at hDispatch
        · cases hDispatch
        · dsimp only at hDispatch
          split at hDispatch
          · cases hDispatch
            rfl
          · split at hDispatch
            all_goals cases hDispatch
    unfold parseTcp at hSeg
    split at hSeg
    next seg' hParse =>
      cases hSeg
      split at hParse
      · cases hParse
      · dsimp only at hParse
        split at hParse
        · cases hParse
        · cases hParse
          simp only [length_drop, hPacket]
          omega
    · cases hSeg
  · cases hSeg

/-
  The FIN of an app: of an upload that ends with a FIN, all bytes are enqueued exactly if none is
  on the FIN itself.
-/
theorem fin_drops_payload_unacknowledged
    (stream : Bytes)
    (f : Nat)
    (s₀ s : Bridge)
    (bytes : Bytes)
    (isn : UInt32)
    (app : Nat)
    (seg : Segment)
    (events : List Event)
    (hRun : Reaches step (Uploads stream f) init s₀)
    (hFin : EndsUpload stream f s₀ bytes seg)
    (hExec : exec step s₀ (.packet bytes isn app :: events) = some s) :
    (s.enqueued f = stream ↔ seg.payload = []) ∧
    ¬ Acknowledges f (finAck seg) s₀ s ∧
    s.delivered f = s₀.delivered f ++ received f events ∧
    (Serving f s₀ →
     (∀ cause, .reader f (.stop cause) ∉ events) →
     ∀ data : Bytes,
       0 < data.length →
       data.length ≤ 65535 →
       ∃ more s', exec step s more = some s' ∧ s'.delivered f = s.delivered f ++ data) := by
  have hWF := wellFormed_of_reaches hRun
  rcases Option.bind_eq_some_iff.mp hExec with ⟨s₁, hStep, hRest⟩
  rcases hFin.closedBy hWF hStep with ⟨hIdle, hClosed₁, hFlows⟩
  have hClosed := closedBy_exec hClosed₁ hRest
  refine ⟨?_, ?_, ?_, ?_⟩
  · have hPart := (reassembled_of_reaches hRun).taken
    have hTake : s₀.enqueued f = stream.take (s₀.next f) := by
      rw [← taken_of_idle hIdle]
      exact prefix_iff_eq_take.mp hPart
    rw [hClosed.enqueued, hTake, hFin.rest, take_eq_self_iff, drop_eq_nil_iff]
  · rintro ⟨stamp, hStamp, hFlow, hAck⟩
    rcases hClosed.tun with ⟨stamps, hTun, hRepeat⟩
    rw [hTun, drop_left] at hStamp
    have hLength := length_payload_le hFin.parsed
    have hRead := hFin.read
    rw [hRepeat stamp hStamp hFlow, ← hFin.order] at hAck
    -- the FIN moves the number by less than 2 ^ 32
    have hNat := congrArg UInt32.toNat hAck
    simp only [finAck, Segment.stop, UInt32.toNat_add,
      UInt32.toNat_ofNat', UInt32.toNat_ofNat] at hNat
    omega
  · rw [delivered_exec hExec]
    simp
  · intro hServing hGoes data hPos hFits
    have hServing₁ : Serving f s₁ := hServing.of_eq (by rw [hFlows])
    exact delivers_of_serving (serving_exec hClosed₁.left hServing₁ hGoes hRest) hPos hFits

def finFromApp (seqNum : UInt32) (payload : Bytes) : Bytes :=
  { fromApp ⟨1, 1, 1, 1⟩ seqNum payload with isFin := true }.encode

/- One byte before the FIN and one on it. -/
theorem fin_with_data_drops_it :
  ∃ s : Bridge, s.enqueued 0 = [65] ∧ s.delivered 0 = [80, 81] ∧ ¬ s.enqueued 0 = [65, 66] := by
  have hState : ((exec step init (connectFirst ++ upload 101 [65])).any fun s₀ =>
    decide (s₀.conns 5000 = some ⟨some 0, 0, 7, false⟩ ∧ (s₀.flows 0).ackShared = 102 ∧
      s₀.next 0 = 1 ∧ s₀.delivered 0 = []) &&
    (exec step s₀ [.packet (finFromApp 102 [66]) 0 0, .reader 0 (.recv [80, 81])]).any fun s =>
      decide (s.enqueued 0 = [65])) := by decide +kernel
  rcases exists_reaches step (Uploads [65, 66] 0) init _ (connectFirst ++ upload 101 [65])
    (by decide +kernel) hState with ⟨s₀, hRun, hEnd⟩
  simp only [Bool.and_eq_true, decide_eq_true_eq, Option.any_eq_true] at hEnd
  rcases hEnd with ⟨⟨hConn, hAck, hNext, hNone⟩, s, hExec, hSent⟩
  have hFin : EndsUpload [65, 66] 0 s₀ (finFromApp 102 [66])
    { fromApp ⟨1, 1, 1, 1⟩ 102 [66] with isFin := true } :=
    { read := by decide
      parsed := Segment.segmentOf_encode _
      fin := rfl
      entry := ⟨_, hConn, rfl, rfl⟩
      order := hAck.symm
      rest := by rw [hNext]; rfl }
  rcases fin_drops_payload_unacknowledged
    [65, 66] 0 s₀ s _ 0 0 _ _ hRun hFin hExec with ⟨hIff, -, hDelivered, -⟩
  refine ⟨s, hSent, ?_, ?_⟩
  · rw [hDelivered, hNone]
    rfl
  · intro hAll
    have hEmpty := hIff.mp hAll
    cases hEmpty

/-
  The byte on the FIN is never enqueued and the FIN is never acknowledged, whatever happens later.
-/
theorem fin_with_data_is_lost : ¬ ∀ (stream : Bytes) (f : Nat) (s₀ : Bridge) (bytes :
  Bytes) (isn : UInt32) (app : Nat) (seg : Segment), Reaches step (Uploads stream f) init s₀ →
  s₀.handler = .idle → EndsUpload stream f s₀ bytes seg →
  ∃ events s, exec step s₀ (.packet bytes isn app :: events) = some s ∧
  s.enqueued f = stream ∧ Acknowledges f (finAck seg) s₀ s := by
  intro hAll
  have hState : ((exec step init connectFirst).any fun s₀ =>
    decide (s₀.handler = .idle ∧ s₀.conns 5000 = some ⟨some 0, 0, 7, false⟩ ∧
      (s₀.flows 0).ackShared = 101 ∧
      s₀.enqueued 0 = [] ∧ s₀.next 0 = 0)) := by decide +kernel
  rcases exists_reaches step (Uploads [65] 0) init _ connectFirst (by decide +kernel) hState with
    ⟨s₀, hRun, hEnd⟩
  rcases of_decide_eq_true hEnd with ⟨hIdle, hConn, hAck, hNone, hNext⟩
  have hFin : EndsUpload [65] 0 s₀ (finFromApp 101 [65])
    { fromApp ⟨1, 1, 1, 1⟩ 101 [65] with isFin := true } :=
    { read := by decide
      parsed := Segment.segmentOf_encode _
      fin := rfl
      entry := ⟨_, hConn, rfl, rfl⟩
      order := hAck.symm
      rest := by rw [hNext]; rfl }
  rcases hAll [65] 0 s₀ _ 0 0 _ hRun hIdle hFin with ⟨events, s, hExec, hSent, -⟩
  rcases Option.bind_eq_some_iff.mp hExec with ⟨s₁, hStep, hRest⟩
  have hClosed := (hFin.closedBy (wellFormed_of_reaches hRun) hStep).2.1
  rw [(closedBy_exec hClosed hRest).enqueued, hNone] at hSent
  cases hSent

end Bridge

end Kourosh.Tun2socks
