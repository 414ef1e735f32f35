import Kourosh.Tun2socks.Bridge

/-
  What a step of the bridge can do.

  `Stepped` lists the transitions once, with the guards they are taken under, and
  `stepped_of_step` shows that there are no others.
-/

-- Work On A Flow

namespace Kourosh.Tun2socks

def Flow.quiet (flow : Flow) : Bool := flow.task == .done &&
  (flow.reader == .absent || flow.reader == .done)

structure Flow.Keeps (old new : Flow) : Prop where
  key : new.key = old.key
  ackShared : new.ackShared = old.ackShared
  stream : new.channel.stream = old.channel.stream
  sent : new.channel.sent = old.channel.sent

structure Flow.Works (old new : Flow) : Prop extends Flow.Keeps old new where
  live : old ≠ .blank
  installed : old.task.beforeInstall = false → new.task.beforeInstall = false
  quiet : old.quiet = true → new.quiet = true

namespace Flow

variable {old new : Flow}

lemma works_of_task {task : ConnectTask}
  (hTask : old.task = task) (hSpawned : task ≠ .unspawned) (hBusy : task ≠ .done)
  (hInstalled : task.beforeInstall = false → new.task.beforeInstall = false)
  (hKeeps : Keeps old new) : Works old new where
  toKeeps := hKeeps
  live := by
    rintro rfl
    exact hSpawned hTask.symm
  installed := by
    rw [hTask]
    exact hInstalled
  quiet := by
    intro hQuiet
    simp [Flow.quiet, hTask, hBusy] at hQuiet

variable {reader : Reader}

section

variable (hReader : old.reader = reader) (hSpawned : reader ≠ .absent) (hBusy : reader ≠ .done)

include hReader hSpawned hBusy

lemma quiet_eq_false_of_reader : old.quiet = false := by simp [Flow.quiet, hReader, hSpawned, hBusy]

lemma works_of_reader (hTask : new.task = old.task) (hKeeps : Keeps old new) : Works old new where
  toKeeps := hKeeps
  live := by
    rintro rfl
    exact hSpawned hReader.symm
  installed := by
    rw [hTask]
    exact id
  quiet := by
    intro hQuiet
    rw [quiet_eq_false_of_reader hReader hSpawned hBusy] at hQuiet
    cases hQuiet

end

lemma works_of_writer {writer : Writer}
  (hWriter : old.writer = writer) (hSpawned : writer ≠ .absent) (hTask : new.task = old.task)
  (hReader : new.reader = old.reader) (hKeeps : Keeps old new) : Works old new where
  toKeeps := hKeeps
  live := by
    rintro rfl
    exact hSpawned hWriter.symm
  installed := by
    rw [hTask]
    exact id
  quiet := by
    rw [Flow.quiet, Flow.quiet, hTask, hReader]
    exact id

end Flow

def Event.isOf (f : Nat) : Event → Prop
| .packet _ _ _ => False
| .resume => False
| .connect g _ => g = f
| .reader g _ => g = f
| .writer g _ => g = f

def Event.readsCounter (f : Nat) : Event → Prop
| .connect g .synAck => g = f
| .reader g (.recv _) => g = f
| .reader g (.stop _) => g = f
| _ => False

-- Transitions

namespace Bridge

inductive Stepped (s : Bridge) : Event → Bridge → Prop
-- a packet that changes nothing
| skip {bytes : Bytes} {isn : UInt32} {app : Nat} (apps : AppHistory) :
  Stepped s (.packet bytes isn app) { s with apps }
| panic {bytes : Bytes} {isn : UInt32} {app : Nat} (hIdle : s.handler = .idle) :
  Stepped s (.packet bytes isn app) (s.setHandler .panicked)
-- FIN or RST
| close {bytes : Bytes} {isn : UInt32} {app : Nat} {seg : Segment} (apps : AppHistory)
  (hSeg : segmentOf bytes = some seg) (hCloses : seg.closes = true) :
  Stepped s (.packet bytes isn app) ({ s with apps }.removeConn seg.sport)
-- a SYN to a private address
| refuse {bytes : Bytes} {isn : UInt32} {app : Nat} (apps : AppHistory) (packet : TunPacket) :
  Stepped s (.packet bytes isn app) ({ s with apps }.refuse packet)
-- a SYN for an established entry
| repeatSyn {bytes : Bytes} {isn : UInt32} {app : Nat} {port : UInt16} {conn : TcpConn}
  (apps : AppHistory) (packet : TunPacket) (hIdle : s.handler = .idle)
  (hConn : s.conns port = some conn) (hAck : packet.ack = (s.flows conn.flow).ackShared) :
  Stepped s (.packet bytes isn app) ({ s with apps }.stamp conn.flow packet)
-- a SYN for a free port
| pass {bytes : Bytes} {isn : UInt32} {app : Nat} {seg : Segment} (apps : AppHistory)
  (hIdle : s.handler = .idle) (hSeg : segmentOf bytes = some seg) (hOpens : seg.opens = true)
  (hPublic : seg.dstIp.isPrivate = false) (hFree : s.conns seg.sport = none) :
  Stepped s (.packet bytes isn app) ({ s with apps }.setHandler (.accepting seg isn app))
-- new data for an established entry
| advance {bytes : Bytes} {isn : UInt32} {app : Nat} {seg : Segment} {conn : TcpConn} {off : Nat}
  (apps : AppHistory) (hSeg : segmentOf bytes = some seg) (hData : seg.carriesData = true)
  (hConn : s.conns seg.sport = some conn) (hConnected : conn.connecting = false)
  (hIdle : s.handler = .idle)
  (hAction : segmentAction (s.flows conn.flow).ackShared seg = .forward off) :
  Stepped s (.packet bytes isn app) (({ s with apps }.setFlow conn.flow
    ((s.flows conn.flow).storeAck seg.stop)).setHandler
    (.forwarding seg off conn.dataTx))
-- known or early data
| hold {bytes : Bytes} {isn : UInt32} {app : Nat} {seg : Segment} (apps : AppHistory)
  (hIdle : s.handler = .idle) :
  Stepped s (.packet bytes isn app) ({ s with apps }.setHandler (.replying seg))
| accept {seg : Segment} {isn : UInt32} {app : Nat}
  (hHandler : s.handler = .accepting seg isn app) :
  Stepped s .resume (s.accept seg isn app)
-- the data is lost
| lose {seg : Segment} {off : Nat} {tx : Option Nat} (hHandler : s.handler = .forwarding seg off tx)
  (hFull : ∀ f, tx = some f →
    (s.flows f).channel.trySend ⟨seg.dst, seg.payload.drop off⟩ = none) :
  Stepped s .resume (s.setHandler (.replying seg))
| enqueue {seg : Segment} {off : Nat} {f : Nat} {channel : Channel}
  (hHandler : s.handler = .forwarding seg off (some f))
  (hSend : (s.flows f).channel.trySend ⟨seg.dst, seg.payload.drop off⟩ = some channel) :
  Stepped s .resume ((s.setFlow f ((s.flows f).setChannel channel)).setHandler (.replying seg))
-- the entry is gone
| finish {seg : Segment} (hHandler : s.handler = .replying seg) :
  Stepped s .resume (s.setHandler .idle)
| acknowledge {seg : Segment} {conn : TcpConn} (packet : TunPacket)
  (hHandler : s.handler = .replying seg) (hConn : s.conns seg.sport = some conn)
  (hAck : packet.ack = (s.flows conn.flow).ackShared) :
  Stepped s .resume ((s.stamp conn.flow packet).setHandler .idle)
| work {e : Event} {f : Nat} {flow : Flow} (hOf : e.isOf f) (hWorks : Flow.Works (s.flows f) flow) :
  Stepped s e (s.setFlow f flow)
| send {e : Event} {f : Nat} {flow : Flow} (packet : TunPacket) (hOf : e.isOf f)
  (hWorks : Flow.Works (s.flows f) flow)
  (hAck : (packet.ack = (s.flows f).ackShared ∧ e.readsCounter f) ∨
    packet.ack = (s.flows f).key.seqNum + 1) :
  Stepped s e ((s.setFlow f flow).stamp f packet)
| install {f : Nat} (hTask : (s.flows f).task = .stored) : Stepped s (.connect f .install)
  ((s.setFlow f (s.flows f).install).insertConn (s.flows f).key.sport
    { dataTx := some f, flow := f, isn := (s.flows f).key.isn, connecting := false })
| evict {e : Event} {f : Nat} {flow : Flow} (hOf : e.isOf f) (hWriter : ∀ w, e ≠ .writer f w)
  (hWorks : Flow.Works (s.flows f) flow) (hLoud : (s.flows f).quiet = false) :
  Stepped s e ((s.setFlow f flow).removeConn (s.flows f).key.sport)

-- There Are No Other Transitions

variable {s s' : Bridge}

lemma exists_noteApp (s : Bridge) (seg : Segment) (app : Nat) :
  ∃ apps, s.noteApp seg app = { s with apps } := by
  unfold noteApp
  split
  · exact ⟨_, rfl⟩
  · split
    · exact ⟨_, rfl⟩
    · exact ⟨s.apps, rfl⟩

variable {bytes : Bytes} {seg : Segment} {isn : UInt32} {app f : Nat}

section

variable (apps : AppHistory) (hIdle : s.handler = .idle) (hSeg : segmentOf bytes = some seg)

include hIdle hSeg

lemma stepped_handleSyn (hOpens : seg.opens) :
  Stepped s (.packet bytes isn app) ({ s with apps }.handleSyn seg isn app) := by
  unfold handleSyn
  by_cases hPrivate : seg.dstIp.isPrivate
  · rw [if_pos hPrivate]
    exact .refuse apps _
  · rw [if_neg hPrivate]
    cases hConn : s.conns seg.sport with
    | none => exact .pass apps hIdle hSeg hOpens (by simpa using hPrivate) hConn
    | some conn =>
      simp only
      by_cases hConnecting : conn.connecting
      · rw [if_pos hConnecting]
        exact .skip apps
      · rw [if_neg hConnecting]
        exact .repeatSyn apps _ hIdle hConn rfl

lemma stepped_handleData (hData : seg.carriesData) :
  Stepped s (.packet bytes isn app) ({ s with apps }.handleData seg) := by
  unfold handleData
  cases hConn : s.conns seg.sport with
  | none => exact .skip apps
  | some conn =>
    simp only
    by_cases hConnecting : conn.connecting
    · rw [if_pos hConnecting]
      exact .skip apps
    · rw [if_neg hConnecting]
      cases hAction : segmentAction (s.flows conn.flow).ackShared seg with
      | ackOnly => exact .hold apps hIdle
      | forward =>
        exact .advance apps hSeg hData hConn (by simpa using hConnecting) hIdle hAction

end

lemma stepped_receive (bytes : Bytes) (isn : UInt32) (app : Nat)
  (hIdle : s.handler = .idle) : Stepped s (.packet bytes isn app) (s.receive bytes isn app) := by
  unfold receive
  cases hDispatch : dispatch bytes with
  | skip | udp => exact .skip s.apps
  | tcp inbound =>
    simp only
    cases hParse : parseTcp inbound with
    | short => exact .skip s.apps
    | panics => exact .panic hIdle
    | segment seg =>
      have hSeg : segmentOf bytes = some seg := by simp [segmentOf, hDispatch, hParse]
      rcases exists_noteApp s seg app with ⟨apps, hApps⟩
      simp only [hApps, handleTcp]
      by_cases hCloses : seg.closes
      · rw [if_pos hCloses]
        exact .close apps hSeg hCloses
      · rw [if_neg hCloses]
        by_cases hSyn : seg.isSyn
        · rw [if_pos hSyn]
          exact stepped_handleSyn apps hIdle hSeg (by simp [Segment.opens, hCloses, hSyn])
        · rw [if_neg hSyn]
          split
          next hPayload =>
            apply stepped_handleData apps hIdle hSeg
            simp [Segment.carriesData, hCloses, hSyn] at hPayload ⊢
            exact hPayload
          · exact .skip apps

lemma stepped_resume (hStep : s.resume = some s') : Stepped s .resume s' := by
  unfold resume at hStep
  split at hStep
  · cases hStep
  next hHandler =>
    cases hStep
    exact .accept hHandler
  next seg off tx hHandler =>
    cases hStep
    cases tx with
    | none => exact .lose hHandler (by simp)
    | some f =>
      unfold forward
      simp only
      split
      next hFull =>
        refine .lose hHandler ?_
        rintro g ⟨⟩
        exact hFull
      next hSend => exact .enqueue hHandler hSend
  next seg hHandler =>
    cases hStep
    unfold reply
    split
    · exact .finish hHandler
    next conn hConn => exact .acknowledge _ hHandler hConn rfl
  · cases hStep

lemma stepped_connectTask
  {e : ConnectEvent} (hStep : s.connectTask f e = some s') : Stepped s (.connect f e) s' := by
  -- the tasks an event is for are spawned and not done
  have hWorks : ∀ {task : ConnectTask} {new : Flow}, (s.flows f).task = task → task ≠ .unspawned ∧
    task ≠ .done → (task.beforeInstall = false → new.task.beforeInstall = false) →
    Flow.Keeps (s.flows f) new → Flow.Works (s.flows f) new := by
    intro task new hTask hActive hInstalled hKeeps
    exact Flow.works_of_task hTask hActive.1 hActive.2 hInstalled hKeeps
  unfold connectTask at hStep
  simp only at hStep
  split at hStep
  · -- abort
    rename_i hTask
    cases hStep
    exact .work rfl (hWorks hTask (by simp) (fun _ => rfl) ⟨rfl, rfl, rfl, rfl⟩)
  · -- succeed
    rename_i hTask
    have hLate : Flow.Works (s.flows f) { s.flows f with task := .done } :=
      hWorks hTask (by simp) (fun _ => rfl) ⟨rfl, rfl, rfl, rfl⟩
    split at hStep
    · split at hStep
      · cases hStep
        exact .work rfl (hWorks hTask (by simp) (fun hTask => hTask) ⟨rfl, rfl, rfl, rfl⟩)
      · cases hStep
        exact .work rfl hLate
    · cases hStep
      exact .work rfl hLate
  · -- store
    rename_i hTask
    cases hStep
    exact .work rfl (hWorks hTask (by simp) (fun hTask => hTask) ⟨rfl, rfl, rfl, rfl⟩)
  · -- install
    rename_i hTask
    cases hStep
    exact .install hTask
  · -- spawn both
    rename_i hTask
    cases hStep
    exact .work rfl (hWorks hTask (by simp) (fun _ => rfl) ⟨rfl, rfl, rfl, rfl⟩)
  · -- spawn writerOnly
    rename_i hTask
    cases hStep
    exact .work rfl (hWorks hTask (by simp) (fun _ => rfl) ⟨rfl, rfl, rfl, rfl⟩)
  · -- spawn panics
    rename_i hTask
    cases hStep
    exact .work rfl (hWorks hTask (by simp) (fun _ => rfl) ⟨rfl, rfl, rfl, rfl⟩)
  · -- synAck
    rename_i hTask
    cases hStep
    exact .send _ rfl (hWorks hTask (by simp) (fun _ => rfl) ⟨rfl, rfl, rfl, rfl⟩) (.inl ⟨rfl, rfl⟩)
  · -- fail
    rename_i hTask
    cases hStep
    exact .send _ rfl (hWorks hTask (by simp) (fun _ => rfl) ⟨rfl, rfl, rfl, rfl⟩) (.inr rfl)
  · -- evict
    rename_i hTask
    cases hStep
    exact .evict rfl (by simp) (hWorks hTask (by simp) (fun _ => rfl) ⟨rfl, rfl, rfl, rfl⟩)
      (by simp [Flow.quiet, hTask])
  · cases hStep

lemma stepped_tunResponseReader
  {e : ReaderEvent} (hStep : s.tunResponseReader f e = some s') : Stepped s (.reader f e) s' := by
  unfold tunResponseReader at hStep
  simp only at hStep
  split at hStep
  · -- recv
    rename_i hReader
    split at hStep
    · cases hStep
      exact .send _ rfl (Flow.works_of_reader hReader (by simp) (by simp) rfl ⟨rfl, rfl, rfl, rfl⟩)
        (.inl ⟨rfl, rfl⟩)
    · cases hStep
  · -- advance
    rename_i hReader
    cases hStep
    exact .work rfl (Flow.works_of_reader hReader (by simp) (by simp) rfl ⟨rfl, rfl, rfl, rfl⟩)
  · -- stop
    rename_i hReader
    cases hStep
    exact .send _ rfl (Flow.works_of_reader hReader (by simp) (by simp) rfl ⟨rfl, rfl, rfl, rfl⟩)
      (.inl ⟨rfl, rfl⟩)
  · -- evict
    rename_i hReader
    cases hStep
    exact .evict rfl (by simp) (Flow.works_of_reader hReader (by simp) (by simp) rfl
      ⟨rfl, rfl, rfl, rfl⟩)
      (Flow.quiet_eq_false_of_reader hReader (by simp) (by simp))
  · cases hStep

lemma stepped_socksWriterTask
  {e : WriterEvent} (hStep : s.socksWriterTask f e = some s') : Stepped s (.writer f e) s' := by
  unfold socksWriterTask at hStep
  simp only at hStep
  split at hStep
  · -- recv
    rename_i hWriter
    split at hStep
    · cases hStep
    · cases hStep
      exact .work rfl (Flow.works_of_writer hWriter (by simp) rfl rfl ⟨rfl, rfl, rfl, rfl⟩)
  · -- wrote
    rename_i hWriter
    cases hStep
    exact .work rfl (Flow.works_of_writer hWriter (by simp) rfl rfl ⟨rfl, rfl, rfl, rfl⟩)
  · -- failed
    rename_i hWriter
    cases hStep
    exact .work rfl (Flow.works_of_writer hWriter (by simp) rfl rfl ⟨rfl, rfl, rfl, rfl⟩)
  · cases hStep

lemma stepped_of_step {e : Event} (hStep : s.step e = some s') : Stepped s e s' := by
  cases e with
  | packet bytes isn app =>
    simp only [step] at hStep
    by_cases hIdle : s.handler = .idle
    · rw [if_pos hIdle] at hStep
      cases hStep
      exact stepped_receive bytes isn app hIdle
    · rw [if_neg hIdle] at hStep
      cases hStep
  | resume => exact stepped_resume hStep
  | connect => exact stepped_connectTask hStep
  | reader => exact stepped_tunResponseReader hStep
  | writer => exact stepped_socksWriterTask hStep

end Bridge

end Kourosh.Tun2socks
