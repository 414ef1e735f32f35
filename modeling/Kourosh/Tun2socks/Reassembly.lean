import Kourosh.Tun2socks.Acknowledgement

/-
  The bytes an app uploads.

  The segments of a flow are cut from one byte stream in any way: in any order, again and again,
  and overlapping.

  Correctness is proven by:
    * `reassembles`
-/

-- Distances Modulo 2 ^ 32

namespace Kourosh.Tun2socks

open List UInt32
open Function

/- Two stream offsets no further apart than `2 ^ 31`. -/
def Near (o next : Nat) : Prop := o ≤ next + 2 ^ 31 ∧ next ≤ o + 2 ^ 31

instance (o next : Nat) : Decidable (Near o next) := inferInstanceAs (Decidable (_ ∧ _))

lemma toNat_sub_offsets (first : UInt32) (next o : Nat) : ((first + ofNat next) -
  (first + ofNat o)).toNat = (2 ^ 32 - o % 2 ^ 32 + next % 2 ^ 32) % 2 ^ 32 := by
  simp only [UInt32.toNat_sub, UInt32.toNat_add, UInt32.toNat_ofNat']
  omega

lemma asI32_offsets (first : UInt32) {next o : Nat} (hNear : Near o next) :
  (asI32 ((first + ofNat next) - (first + ofNat o)) = (next : Int) - o ∧ next <
  o + 2 ^ 31) ∨ (asI32 ((first + ofNat next) - (first + ofNat o)) = - 2 ^ 31 ∧
  next = o + 2 ^ 31) := by
  have hSub := toNat_sub_offsets first next o
  rcases hNear with ⟨_, _⟩
  rw [asI32, BitVec.toInt_eq_toNat_cond, toNat_toBitVec, hSub]
  split
  all_goals omega

lemma offset_of_segmentAction {first : UInt32} {next o off : Nat}
  {seg : Segment} (hSeq : seg.seqNum = first + ofNat o) (hNear : Near o next)
  (hAction : segmentAction (first + ofNat next) seg = .forward off) : o + off = next := by
  simp only [segmentAction, hSeq] at hAction
  rcases asI32_offsets first hNear with ⟨hBehind, _⟩ | ⟨hBehind, _⟩
  · rw [hBehind] at hAction
    split at hAction
    · cases hAction
      omega
    · split at hAction
      · split at hAction
        · cases hAction
        · cases hAction
          omega
      · cases hAction
  · rw [hBehind] at hAction
    simp at hAction

-- What A Flow Has Taken

namespace Bridge

open Run

variable {s s' : Bridge} {f : Nat}

attribute [local simp] setHandler setFlow insertConn Flow.setChannel Flow.storeAck

def enqueued (s : Bridge) (f : Nat) : Bytes := (s.flows f).channel.sent.flatMap Chunk.bytes

def inHand (s : Bridge) (f : Nat) : Bytes :=
  match s.handler with
  | .forwarding seg off tx => if tx = some f then seg.payload.drop off else []
  | _ => []

def taken (s : Bridge) (f : Nat) : Bytes := s.enqueued f ++ s.inHand f

def next (s : Bridge) (f : Nat) : Nat := (s.taken f).length

lemma inHand_of_holding (hHolding : s.holding f = false) : s.inHand f = [] := by
  unfold holding at hHolding
  unfold inHand
  cases hHandler : s.handler with
  | forwarding _ _ tx =>
    have hNe : tx ≠ some f := by simpa [hHandler] using hHolding
    exact if_neg hNe
  | _ => rfl

lemma inHand_of_idle (hIdle : s.handler = .idle) : s.inHand f = [] := by rw [inHand, hIdle]

lemma taken_of_idle (hIdle : s.handler = .idle) : s.taken f = s.enqueued f := by
  rw [taken, inHand_of_idle hIdle, append_nil]

/- What a step does to the upload of a flow, if the step
  loses none of its data. -/
inductive Uploaded (f : Nat) (s : Bridge) (e : Event) (s' : Bridge) : Prop
| same (hKey : (s'.flows f).key = (s.flows f).key)
  (hAck : (s'.flows f).ackShared = (s.flows f).ackShared) (hTaken : s'.taken f = s.taken f)
| accepted (hCount : f = s.count) (hOld : s.taken f = []) (hNew : s'.taken f = [])
  (hAck : (s'.flows f).ackShared = (s'.flows f).key.seqNum + 1)
| grown {bytes : Bytes} {isn : UInt32} {app : Nat} {seg : Segment} {conn : TcpConn} {off : Nat}
  (hEvent : e = .packet bytes isn app) (hSeg : segmentOf bytes = some seg)
  (hData : seg.carriesData = true) (hConn : s.conns seg.sport = some conn)
  (hConnected : conn.connecting = false) (hFlow : conn.flow = f)
  (hAction : segmentAction (s.flows f).ackShared seg = .forward off)
  (hKey : (s'.flows f).key = (s.flows f).key) (hAck : (s'.flows f).ackShared = seg.stop)
  (hTaken : s'.taken f = s.taken f ++ seg.payload.drop off)

namespace Uploaded

variable {e : Event}

lemma of_eq
  (hFlow : s'.flows f = s.flows f) (hHand : s'.inHand f = s.inHand f) : Uploaded f s e s' := by
  refine .same ?_ ?_ ?_
  · rw [hFlow]
  · rw [hFlow]
  · rw [taken, taken, enqueued, enqueued, hFlow, hHand]

lemma of_keeps {g : Nat} {flow : Flow}
  (hFlows : s'.flows = update s.flows g flow) (hKeeps : Flow.Keeps (s.flows g) flow)
  (hHandler : s'.handler = s.handler) : Uploaded f s e s' := by
  have hHand : s'.inHand f = s.inHand f := by rw [inHand, inHand, hHandler]
  by_cases hEq : f = g
  · subst hEq
    have hFlow : s'.flows f = flow := by rw [hFlows, update_self]
    refine .same ?_ ?_ ?_
    · rw [hFlow, hKeeps.key]
    · rw [hFlow, hKeeps.ackShared]
    · rw [taken, taken, enqueued, enqueued, hFlow, hKeeps.sent, hHand]
  · apply of_eq _ hHand
    rw [hFlows, update_of_ne hEq]

end Uploaded

def Stores (f : Nat) (s : Bridge) : Event → Prop
| .resume => s.holding f = true → (s.flows f).channel.hasRoom = true
| _ => True

instance (f : Nat) (s : Bridge) (e : Event) : Decidable (Stores f s e) :=
  match e with
  | .resume => inferInstanceAs (Decidable (_ → _))
  | .packet _ _ _ | .connect _ _ | .reader _ _
  | .writer _ _ => inferInstanceAs (Decidable True)

variable {isn : UInt32} {seg : Segment} {e : Event} {stream : Bytes}

lemma uploaded_advance {bytes : Bytes} {app off : Nat}
  {conn : TcpConn} (apps : AppHistory) (hWF : WellFormed s) (hSeg : segmentOf bytes = some seg)
  (hData : seg.carriesData) (hConn : s.conns seg.sport = some conn)
  (hConnected : conn.connecting = false) (hIdle : s.handler = .idle)
  (hAction : segmentAction (s.flows conn.flow).ackShared seg = .forward off) :
  Uploaded f s (.packet bytes isn app) (({ s with apps }.setFlow conn.flow
  ((s.flows conn.flow).storeAck seg.stop)).setHandler (.forwarding seg off conn.dataTx)) := by
  have hTx := ((hWF.conns _ _ hConn).2.2 hConnected).1
  rw [hTx]
  by_cases hEq : conn.flow = f
  · subst hEq
    refine .grown rfl hSeg hData hConn hConnected rfl hAction ?_ ?_ ?_
    · simp
    · simp
    · rw [taken_of_idle hIdle]
      simp [taken, enqueued, inHand]
  · have hNe : f ≠ conn.flow := fun h => hEq h.symm
    apply Uploaded.of_eq
    · simp [hNe]
    · rw [inHand_of_idle hIdle]
      simp [inHand, hEq]

lemma uploaded_enqueue
  {off g : Nat} {channel : Channel} (hHandler : s.handler = .forwarding seg off (some g))
  (hSend : (s.flows g).channel.trySend ⟨seg.dst, seg.payload.drop off⟩ = some channel) : Uploaded
  f s .resume ((s.setFlow g ((s.flows g).setChannel channel)).setHandler (.replying seg)) := by
  by_cases hEq : g = f
  · subst hEq
    refine .same ?_ ?_ ?_
    · simp
    · simp
    · simp [taken, enqueued, inHand, hHandler, (Channel.sent_trySend hSend).2]
  · have hNe : f ≠ g := fun h => hEq h.symm
    apply Uploaded.of_eq
    · simp [hNe]
    · simp [inHand, hHandler, hEq]

lemma uploaded_accept {app : Nat} (hWF : WellFormed s)
  (hHandler : s.handler = .accepting seg isn app) :
  Uploaded f s .resume (s.accept seg isn app) := by
  have hHand : s.inHand f = [] := by rw [inHand, hHandler]
  by_cases hEq : f = s.count
  · subst hEq
    refine .accepted rfl ?_ ?_ ?_
    · rw [taken, hHand, enqueued, hWF.fresh _ (Nat.le_refl _)]
      rfl
    · rw [taken, enqueued, flows_accept_self]
      rfl
    · rw [flows_accept_self]
      rfl
  · apply Uploaded.of_eq
    · exact flows_accept_of_ne hEq _ _ _
    · rw [hHand]
      rfl

lemma uploaded_of_stepped
  (hWF : WellFormed s) (hOk : Stores f s e) (hStep : Stepped s e s') : Uploaded f s e s' := by
  cases hStep with
  | skip | close | refuse | repeatSyn => exact .of_eq rfl rfl
  | panic hIdle | pass _ hIdle | hold _ hIdle => exact .of_eq rfl (inHand_of_idle hIdle).symm
  | advance apps hSeg hData hConn hConnected hIdle hAction =>
    exact uploaded_advance apps hWF hSeg hData hConn hConnected hIdle hAction
  | accept hHandler => exact uploaded_accept hWF hHandler
  | @lose _ _ _ hHandler hFull =>
    rcases hWF.sender _ _ _ hHandler with ⟨-, g, rfl, -⟩
    by_cases hEq : g = f
    · -- the channel has room
      subst hEq
      have hRoom : (s.flows g).channel.hasRoom := hOk (by simp [holding, hHandler])
      exact absurd (hFull g rfl) (Channel.trySend_isSome hRoom _)
    · apply Uploaded.of_eq
      · rfl
      · simp [inHand, hHandler, hEq]
  | enqueue hHandler hSend => exact uploaded_enqueue hHandler hSend
  | finish hHandler | acknowledge _ hHandler =>
    refine .of_eq rfl ?_
    rw [inHand, inHand, hHandler]
    rfl
  | work _ hWorks | send _ _ hWorks | evict _ _ hWorks => exact .of_keeps rfl hWorks.toKeeps rfl
  | @install g hTask =>
    by_cases hEq : f = g
    · subst hEq
      have hUnsent := hWF.unsent f (by rw [hTask, ConnectTask.beforeInstall])
      refine .same ?_ ?_ ?_
      · simp
      · simp [Flow.install]
      · simp [taken, enqueued, inHand, Flow.install, Channel.new, hUnsent]
    · apply Uploaded.of_eq
      · simp [hEq]
      · rfl

-- Segments Of One Stream

/- The segment carries the bytes of the stream from `o`. -/
def CutAt (stream : Bytes) (first : UInt32) (seg : Segment) (o : Nat) : Prop :=
  seg.seqNum = first + UInt32.ofNat o ∧ seg.payload <+: stream.drop o

instance (stream : Bytes) (first : UInt32) (seg : Segment) (o : Nat) :
  Decidable (CutAt stream first seg o) := inferInstanceAs (Decidable (_ ∧ _))

def firstByte (s : Bridge) (f : Nat) : UInt32 := (s.flows f).key.seqNum + 1

/-
  Every data segment for the flow is cut from the stream and starts near the next byte expected,
  and the channel of the flow has room.
-/
def Uploads (stream : Bytes) (f : Nat) (s : Bridge) : Event → Prop
| .packet bytes _ _ =>
  ∀ seg ∈ segmentOf bytes, seg.carriesData = true →
    ∀ conn ∈ s.conns seg.sport, conn.connecting = false → conn.flow = f →
      ∃ o < stream.length, CutAt stream (s.firstByte f) seg o ∧ Near o (s.next f)
| e => Stores f s e

instance (stream : Bytes) (f : Nat) (s : Bridge) (e : Event) : Decidable (Uploads stream f s e) :=
  match e with
  | .packet bytes _ _ =>
    inferInstanceAs (Decidable (∀ seg ∈ segmentOf bytes, seg.carriesData = true →
      ∀ conn ∈ s.conns seg.sport, conn.connecting = false → conn.flow = f →
        ∃ o < stream.length, CutAt stream (s.firstByte f) seg o ∧ Near o (s.next f)))
  | .resume => inferInstanceAs (Decidable (Stores f s .resume))
  | .connect _ _ | .reader _ _ | .writer _ _ => inferInstanceAs (Decidable True)

lemma Uploads.stores (hOk : Uploads stream f s e) : Stores f s e := by
  cases e with
  | packet | connect | reader | writer => trivial
  | resume => exact hOk

-- The Invariant

structure Reassembled (stream : Bytes) (f : Nat) (s : Bridge) : Prop where
  taken : s.taken f <+: stream
  ack : (s.flows f).ackShared = s.firstByte f + UInt32.ofNat (s.next f)

lemma append_isPrefix {bytes more : Bytes} (hBytes : bytes <+: stream)
  (hMore : more <+: stream.drop bytes.length) : bytes ++ more <+: stream := by
  rcases hBytes with ⟨rest, rfl⟩
  rw [drop_left] at hMore
  exact (prefix_append_right_inj bytes).mpr hMore

lemma reassembled_step (hWF : WellFormed s) (hPart : Reassembled stream f s)
  (hOk : Uploads stream f s e) (hStep : Stepped s e s') : Reassembled stream f s' := by
  cases uploaded_of_stepped hWF hOk.stores hStep with
  | same hKey hAck hTaken =>
    refine ⟨hTaken ▸ hPart.taken, ?_⟩
    rw [hAck, hPart.ack, firstByte, firstByte, hKey, next, next, hTaken]
  | accepted _ _ hNew hAck =>
    refine ⟨hNew ▸ ⟨stream, rfl⟩, ?_⟩
    rw [hAck, firstByte, next, hNew]
    simp
  | @grown bytes isn app seg conn off hEvent hSeg hData
    hConn hConnected hFlow hAction hKey hAck hTaken =>
    subst hEvent
    rcases hOk seg hSeg hData conn hConn hConnected hFlow with ⟨o, -, ⟨hSeq, hCut⟩, hNear⟩
    have hOff := off_le_of_segmentAction hAction
    have hStop := stop_of_segmentAction hAction
    rw [hPart.ack] at hAction hStop
    have hNext := offset_of_segmentAction hSeq hNear hAction
    have hTail : seg.payload.drop off <+: stream.drop (s.next f) := by
      rcases hCut with ⟨rest, hRest⟩
      refine ⟨rest, ?_⟩
      rw [← hNext, ← drop_drop, ← hRest, drop_append_of_le_length hOff]
    refine ⟨?_, ?_⟩
    · rw [hTaken]
      exact append_isPrefix hPart.taken hTail
    · rw [hAck, hStop, firstByte, firstByte, hKey, next,
        next, hTaken, length_append, length_drop, UInt32.ofNat_add, UInt32.add_assoc]

lemma reassembled_of_reaches (hRun : Reaches step (Uploads stream f) init s) :
  Reassembled stream f s :=
  hRun.invariant_of wellFormed_of_reaches ⟨⟨stream, rfl⟩, rfl⟩
    (fun hWF hPart hOk hStep => reassembled_step hWF hPart hOk (stepped_of_step hStep))

lemma taken_isPrefix_step (hWF : WellFormed s)
  (hOk : Stores f s e) (hStep : Stepped s e s') : s.taken f <+: s'.taken f := by
  cases uploaded_of_stepped hWF hOk hStep with
  | same _ _ hTaken => exact ⟨[], by rw [hTaken, append_nil]⟩
  | accepted _ hOld hNew => exact ⟨[], by rw [hOld, hNew, append_nil]⟩
  | grown hEvent hSeg hData hConn hConnected hFlow hAction hKey hAck hTaken =>
    rw [hTaken]
    exact prefix_append _ _

lemma taken_isPrefix (hWF : WellFormed s)
  (hRun : Reaches step (Uploads stream f) s s') : s.taken f <+: s'.taken f := by
  have hBoth : WellFormed s' ∧ s.taken f <+: s'.taken f := by
    induction hRun with
    | start => exact ⟨hWF, prefix_rfl⟩
    | next _ hOk hStep ih =>
      have hStepped := stepped_of_step hStep
      exact
        ⟨wellFormed_step ih.1 hStepped, ih.2.trans (taken_isPrefix_step ih.1 hOk.stores hStepped)⟩
  exact hBoth.2

/-
  Uploads: along every run whose data segments for a flow are cut from one stream, the counter of
  the flow stands at the next byte of the stream and never moves back, and when no segment is in
  hand the chunks enqueued so far are the bytes of the stream before it.
-/
theorem reassembles
    (stream : Bytes)
    (f : Nat)
    (s s' : Bridge)
    (hRun : Reaches step (Uploads stream f) init s)
    (hMore : Reaches step (Uploads stream f) s s') :
    (s.flows f).ackShared = s.firstByte f + UInt32.ofNat (s.next f) ∧
    (s.holding f = false → s.enqueued f = stream.take (s.next f)) ∧
    s.next f ≤ s'.next f := by
  have hPart := reassembled_of_reaches hRun
  refine ⟨hPart.ack, ?_, ?_⟩
  · intro hHolding
    have hTaken : s.taken f = s.enqueued f := by rw [taken, inHand_of_holding hHolding, append_nil]
    rw [← hTaken]
    exact prefix_iff_eq_take.mp hPart.taken
  · exact (taken_isPrefix (wellFormed_of_reaches hRun) hMore).length_le

def upload (seqNum : UInt32) (payload : Bytes) : List Event :=
  [.packet (fromApp ⟨1, 1, 1, 1⟩ seqNum payload).encode 0 0, .resume, .resume]

def connectAtWrap : List Event := [.packet (synFromApp ⟨1, 1, 1, 1⟩ 0xfffffffe).encode 7 0,
  .resume, .connect 0 .succeed, .connect 0 .store,
  .connect 0 .install, .connect 0 (.spawn .both),
  .connect 0 .synAck]

/-
  The first byte, an early segment, the first byte once more with two others, and then the early
  segment again.
-/
theorem reassembles_around_wrap :
  ∃ s s' : Bridge, s.next 0 = 1 ∧ s'.next 0 = 5 ∧ s'.enqueued 0 = [65, 66, 67, 68, 69] ∧
  (s.flows 0).ackShared = s.firstByte 0 + UInt32.ofNat (s.next 0) ∧ (s.holding 0 = false →
  s.enqueued 0 = [65, 66, 67, 68, 69].take (s.next 0)) ∧ s.next 0 ≤ s'.next 0 := by
  rcases exists_reaches step (Uploads [65, 66, 67, 68, 69] 0) init (fun s =>
    decide (s.next 0 = 1) &&
      let more := [.packet (fromApp ⟨1, 1, 1, 1⟩ 1 [67, 68]).encode 0 0, .resume] ++
        upload 0xffffffff [65, 66, 67] ++
        upload 1 [67, 68, 69]
      decide (Taken step (Uploads [65, 66, 67, 68, 69] 0) s more) &&
        (exec step s more).any fun s' =>
          decide (s'.next 0 = 5 ∧ s'.enqueued 0 = [65, 66, 67, 68, 69]))
    (connectAtWrap ++ upload 0xffffffff [65])
    (by decide +kernel) (by decide +kernel) with
    ⟨s, hRun, hEnd⟩
  simp only [Bool.and_eq_true, decide_eq_true_eq, Option.any_eq_true] at hEnd
  rcases hEnd with ⟨hOne, hTaken, s', hExec, hFive, hAll⟩
  exact ⟨s, s', hOne, hFive, hAll, reassembles _ 0 s s' hRun (Reaches.start.of_exec hExec hTaken)⟩

end Bridge

end Kourosh.Tun2socks
