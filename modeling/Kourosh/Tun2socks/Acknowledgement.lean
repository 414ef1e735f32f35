import Kourosh.Tun2socks.WellFormed

/-
  What the bridge acknowledges.

  The handler advances the acknowledgement counter first and tries to enqueue the data afterwards.

  Correctness is proven by:
    * `ackWithin_of_stamp`
-/

-- Sequence Numbers

namespace Kourosh.Tun2socks

open Function UInt32
open List

/- The number acknowledges the SYN and at most `kept` bytes behind it, modulo `2 ^ 32`. -/
def AckWithin (seqNum : UInt32) (kept : Nat) (ack : UInt32) : Prop :=
  ∃ j, j ≤ kept ∧ ack = seqNum + 1 + UInt32.ofNat j

variable {x : UInt32}

lemma eq_zero_of_asI32 (hZero : asI32 x = 0) : x = 0 := by
  apply UInt32.toBitVec_inj.mp
  apply BitVec.toInt_inj.mp
  simpa [asI32] using hZero

lemma toNat_asI32 (hPos : asI32 x > 0) : (asI32 x).toNat = x.toNat := by
  have hLt := x.toNat_lt
  rw [asI32, BitVec.toInt_eq_toNat_cond] at hPos ⊢
  simp only [toNat_toBitVec] at hPos ⊢
  split at hPos
  · simp_all
  · omega

lemma stop_of_segmentAction {expected : UInt32}
  {seg : Segment} {off : Nat} (hAction : segmentAction expected seg = .forward off) :
  seg.stop = expected + UInt32.ofNat (seg.payload.length - off) := by
  have hOff := Bridge.off_le_of_segmentAction hAction
  have hBehind : ofNat off = expected - seg.seqNum := by
    unfold segmentAction at hAction
    simp only at hAction
    split at hAction
    next hZero =>
      cases hAction
      rw [eq_zero_of_asI32 hZero]
      rfl
    · split at hAction
      next hPos =>
        split at hAction
        · cases hAction
        · cases hAction
          rw [toNat_asI32 hPos, UInt32.ofNat_toNat]
      · cases hAction
  have hSplit : ofNat seg.payload.length =
    ofNat off + ofNat (seg.payload.length - off) := by
    rw [← ofNat_add, Nat.add_sub_cancel' hOff]
  rw [Segment.stop, hSplit, hBehind, ← UInt32.add_assoc]
  congr 1
  rw [UInt32.add_comm, UInt32.sub_add_cancel]

-- Conditions On A Run

namespace Bridge

open Run

variable {s s' : Bridge}

def holding (s : Bridge) (f : Nat) : Bool :=
  match s.handler with
  | .forwarding _ _ tx => tx == some f
  | _ => false

def pending (s : Bridge) (f : Nat) : Nat :=
  match s.handler with
  | .forwarding seg off tx => if tx = some f then seg.payload.length - off else 0
  | _ => 0

def roomToForward (s : Bridge) : Bool :=
  match s.handler with
  | .forwarding _ _ (some f) => (s.flows f).channel.hasRoom
  | _ => true

/-
  Every enqueue finds room and a receiver, and no other task reads the counter of a flow whose
  data is not enqueued yet.
-/
def AcksKept (s : Bridge) : Event → Prop
| .resume => s.roomToForward = true
| .connect f .synAck => s.holding f = false
| .reader f (.recv _) => s.holding f = false
| .reader f (.stop _) => s.holding f = false
| _ => True

instance (s : Bridge) (e : Event) : Decidable (s.AcksKept e) :=
  match e with
  | .resume => inferInstanceAs (Decidable (_ = true))
  | .connect _ e =>
    match e with
    | .synAck => inferInstanceAs (Decidable (_ = false))
    | .abort | .succeed | .store | .install | .spawn _
    | .fail | .evict => inferInstanceAs (Decidable True)
  | .reader _ e =>
    match e with
    | .recv _ | .stop _ => inferInstanceAs (Decidable (_ = false))
    | .advance | .evict => inferInstanceAs (Decidable True)
  | .packet _ _ _ | .writer _ _ => inferInstanceAs (Decidable True)

variable {e : Event} {f off : Nat} {seg : Segment}

lemma AcksKept.holding_of_readsCounter
  (hOk : s.AcksKept e) (hReads : e.readsCounter f) : s.holding f = false := by
  cases e with
  | packet | resume | writer => exact hReads.elim
  | connect g e =>
    cases e with
    | synAck =>
      cases hReads
      exact hOk
    | _ => exact hReads.elim
  | reader g e =>
    cases e with
    | recv | stop =>
      cases hReads
      exact hOk
    | _ => exact hReads.elim

lemma pending_of_holding (hHolding : s.holding f = false) : s.pending f = 0 := by
  unfold holding at hHolding
  unfold pending
  cases hHandler : s.handler with
  | forwarding _ _ tx =>
    have hNe : tx ≠ some f := by simpa [hHandler] using hHolding
    exact if_neg hNe
  | _ => rfl

lemma pending_of_idle (hIdle : s.handler = .idle) (f : Nat) : s.pending f = 0 := by
  rw [pending, hIdle]

lemma pending_of_replying (hHandler : s.handler = .replying seg) (f : Nat) : s.pending f = 0 := by
  rw [pending, hHandler]

-- The Invariant

/-
  The counter of a flow is ahead of its channel by the data the handler holds for it, and every
  packet so far carries a number its channel covered.
-/
structure Counted (s : Bridge) : Prop where
  ack : ∀ f, f < s.count → (s.flows f).ackShared =
    (s.flows f).key.seqNum + 1 + UInt32.ofNat ((s.flows f).channel.kept + s.pending f)
  stamps : ∀ stamp ∈ s.tun, ∀ f, stamp.flow = some f →
    f < s.count ∧ AckWithin (s.flows f).key.seqNum stamp.kept stamp.packet.ack

lemma counted_init : Counted init where
  ack := by
    intro f hLt
    exact absurd hLt (Nat.not_lt_zero f)
  stamps := nofun

namespace Counted

lemma setHandler (hCounted : Counted s)
  (handler : Handler) (hPending : ∀ f, (s.setHandler handler).pending f = s.pending f) :
  Counted (s.setHandler handler) :=
  { hCounted with
    ack := by
      intro f hLt
      rw [hPending]
      exact hCounted.ack f hLt }

variable {flow : Flow}

lemma ackWithin (hCounted : Counted s) (hLt : f < s.count) (hPending : s.pending f = 0) :
  AckWithin (s.flows f).key.seqNum (s.flows f).channel.kept (s.flows f).ackShared := by
  refine ⟨(s.flows f).channel.kept, Nat.le_refl _, ?_⟩
  have hAck := hCounted.ack f hLt
  rw [hPending, Nat.add_zero] at hAck
  exact hAck

lemma stamp {packet : TunPacket} (hCounted : Counted s) (hLt : f < s.count)
  (hAck : AckWithin (s.flows f).key.seqNum (s.flows f).channel.kept packet.ack) :
  Counted (s.stamp f packet) :=
  { hCounted with
    stamps := by
      intro st hStamp g hFlow
      simp only [Bridge.stamp, mem_append, mem_singleton] at hStamp
      rcases hStamp with hOld | rfl
      · exact hCounted.stamps st hOld g hFlow
      · cases hFlow
        exact ⟨hLt, hAck⟩ }

section

variable (hCounted : Counted s)

include hCounted

lemma setFlow (hKey : flow.key = (s.flows f).key) (hAck : f < s.count →
  flow.ackShared = flow.key.seqNum + 1 + ofNat (flow.channel.kept + s.pending f)) :
  Counted (s.setFlow f flow) where
  ack := by
    intro g hLt
    by_cases hEq : g = f
    · subst hEq
      simp only [Bridge.setFlow, update_self]
      exact hAck hLt
    · simp only [Bridge.setFlow, update_of_ne hEq]
      exact hCounted.ack g hLt
  stamps := by
    intro st hStamp g hFlow
    rw [key_setFlow hKey]
    exact hCounted.stamps st hStamp g hFlow

lemma keeps (hKeeps : Flow.Keeps (s.flows f) flow) : Counted (s.setFlow f flow) := by
  apply hCounted.setFlow hKeeps.key
  intro hLt
  rw [hKeeps.ackShared, hKeeps.key, Channel.kept, hKeeps.sent]
  exact hCounted.ack f hLt

lemma removeConn (port : UInt16) : Counted (s.removeConn port) := { hCounted with }

lemma withApps (apps : AppHistory) : Counted { s with apps } := { hCounted with }

end

lemma accept {seg : Segment} {isn : UInt32} {app : Nat} (hCounted : Counted s)
  (hHandler : s.handler = .accepting seg isn app) : Counted (s.accept seg isn app) where
  ack := by
    intro f hLt
    have hPending : (s.accept seg isn app).pending f = 0 := rfl
    rw [hPending]
    by_cases hEq : f = s.count
    · subst hEq
      rw [flows_accept_self]
      simp [Flow.spawned, Channel.kept]
    · have hOld : f < s.count := Nat.lt_of_le_of_ne (Nat.le_of_lt_succ hLt) hEq
      have hNone : s.pending f = 0 := by rw [pending, hHandler]
      have hAck := hCounted.ack f hOld
      rw [hNone] at hAck
      rw [flows_accept_of_ne hEq]
      exact hAck
  stamps := by
    intro st hStamp f hFlow
    rcases hCounted.stamps st hStamp f hFlow with ⟨hLt, hAck⟩
    rw [flows_accept_of_ne (by omega)]
    exact ⟨Nat.lt_succ_of_lt hLt, hAck⟩

end Counted

-- Steps And Runs

lemma Counted.advance (hCounted : Counted s) (hLt : f < s.count) (hIdle : s.handler = .idle)
  (hAction : segmentAction (s.flows f).ackShared seg = .forward off) : Counted
  ((s.setFlow f ((s.flows f).storeAck seg.stop)).setHandler (.forwarding seg off (some f))) where
  ack := by
    intro g hG
    have hOld := hCounted.ack g hG
    rw [pending_of_idle hIdle, Nat.add_zero] at hOld
    by_cases hEq : g = f
    · subst hEq
      simp only [Bridge.setHandler, Bridge.setFlow, update_self, Flow.storeAck, pending, if_true]
      rw [stop_of_segmentAction hAction, hOld, UInt32.ofNat_add, ← UInt32.add_assoc]
    · have hNe : ¬ f = g := fun h => hEq h.symm
      simp only [Bridge.setHandler, Bridge.setFlow,
        update_of_ne hEq, pending, Option.some.injEq, if_neg hNe, Nat.add_zero]
      exact hOld
  stamps := by
    intro st hStamp g hFlow
    have hKey : ((s.flows f).storeAck seg.stop).key = (s.flows f).key := rfl
    have hOld := hCounted.stamps st hStamp g hFlow
    rw [← key_setFlow hKey] at hOld
    exact hOld

lemma Counted.enqueue
  {channel : Channel} (hCounted : Counted s) (hHandler : s.handler = .forwarding seg off (some f))
  (hSend : (s.flows f).channel.trySend ⟨seg.dst, seg.payload.drop off⟩ = some channel) :
  Counted ((s.setFlow f ((s.flows f).setChannel channel)).setHandler (.replying seg)) where
  ack := by
    intro g hG
    have hOld := hCounted.ack g hG
    by_cases hEq : g = f
    · subst hEq
      have hKept : channel.kept = (s.flows g).channel.kept + (seg.payload.length - off) := by
        simp [Channel.kept, (Channel.sent_trySend hSend).2]
      simp only [pending, hHandler, if_true] at hOld
      simp only [Bridge.setHandler,
        Bridge.setFlow, update_self, Flow.setChannel, pending, Nat.add_zero]
      rw [hKept]
      exact hOld
    · have hNe : ¬ f = g := fun h => hEq h.symm
      simp only [pending, hHandler, Option.some.injEq, if_neg hNe] at hOld
      simp only [Bridge.setHandler, Bridge.setFlow, update_of_ne hEq, pending]
      exact hOld
  stamps := by
    intro st hStamp g hFlow
    have hKey : ((s.flows f).setChannel channel).key = (s.flows f).key := rfl
    have hOld := hCounted.stamps st hStamp g hFlow
    rw [← key_setFlow hKey] at hOld
    exact hOld

lemma counted_step (hWF : WellFormed s)
  (hCounted : Counted s) (hOk : s.AcksKept e) (hStep : Stepped s e s') : Counted s' := by
  cases hStep with
  | skip apps => exact hCounted.withApps apps
  | panic hIdle =>
    apply hCounted.setHandler
    intro f
    rw [pending_of_idle hIdle]
    rfl
  | close apps => exact (hCounted.withApps apps).removeConn _
  | refuse =>
    refine ⟨hCounted.ack, ?_⟩
    intro st hStamp f hFlow
    simp only [Bridge.refuse, mem_append, mem_singleton] at hStamp
    rcases hStamp with hOld | rfl
    · exact hCounted.stamps st hOld f hFlow
    · cases hFlow
  | repeatSyn apps _ hIdle hConn hAck =>
    have hLt := (hWF.conns _ _ hConn).1
    apply (hCounted.withApps apps).stamp hLt
    rw [hAck]
    exact hCounted.ackWithin hLt (pending_of_idle hIdle _)
  | pass apps hIdle | hold apps hIdle =>
    apply (hCounted.withApps apps).setHandler
    intro f
    exact (pending_of_idle hIdle f).symm
  | advance apps hSeg hData hConn hConnected hIdle hAction =>
    rcases hWF.conns _ _ hConn with ⟨hLt, -, hTx⟩
    rw [(hTx hConnected).1]
    exact (hCounted.withApps apps).advance hLt hIdle hAction
  | accept hHandler => exact hCounted.accept hHandler
  | lose hHandler hFull =>
    -- there is a channel, and it has room
    rcases hWF.sender _ _ _ hHandler with ⟨-, f, rfl, -⟩
    have hRoom : s.roomToForward := hOk
    rw [roomToForward, hHandler] at hRoom
    exact absurd (hFull f rfl) (Channel.trySend_isSome hRoom _)
  | enqueue hHandler hSend => exact hCounted.enqueue hHandler hSend
  | finish hHandler =>
    apply hCounted.setHandler
    intro f
    exact (pending_of_replying hHandler f).symm
  | acknowledge _ hHandler hConn hAck =>
    have hLt := (hWF.conns _ _ hConn).1
    have hNone := pending_of_replying hHandler
    have hStamp := hCounted.stamp hLt (by
      rw [hAck]
      exact hCounted.ackWithin hLt (hNone _))
    apply hStamp.setHandler
    intro f
    exact (hNone f).symm
  | work _ hWorks => exact hCounted.keeps hWorks.toKeeps
  | @send _ _ _ _ _ hWorks hAck =>
    have hLt := hWF.lt_count hWorks.live
    apply (hCounted.keeps hWorks.toKeeps).stamp hLt
    simp only [setFlow, update_self]
    rw [hWorks.key, Channel.kept, hWorks.sent, ← Channel.kept]
    rcases hAck with ⟨hAck, hReads⟩ | hAck
    · rw [hAck]
      exact hCounted.ackWithin hLt (pending_of_holding (hOk.holding_of_readsCounter hReads))
    · exact ⟨0, Nat.zero_le _, by simp [hAck]⟩
  | @install f hTask =>
    have hUnsent := hWF.unsent f (by rw [hTask, ConnectTask.beforeInstall])
    have hSet : Counted (s.setFlow f (s.flows f).install) := by
      apply hCounted.setFlow (s.flows f).key_install
      intro hLt
      have hAck := hCounted.ack f hLt
      rw [Channel.kept, hUnsent] at hAck
      exact hAck
    exact { hSet with }
  | evict _ _ hWorks => exact (hCounted.keeps hWorks.toKeeps).removeConn _

/-
  Acknowledgements: along every run in which enqueues succeed and no task reads a counter that is
  ahead, every packet of a flow acknowledges the SYN and at most the bytes that were enqueued on
  the flow's channel by then.
-/
theorem ackWithin_of_stamp
    (s : Bridge)
    (hRun : Reaches step AcksKept init s)
    (stamp : Stamp)
    (hStamp : stamp ∈ s.tun)
    (f : Nat)
    (hFlow : stamp.flow = some f) :
    AckWithin (s.flows f).key.seqNum stamp.kept stamp.packet.ack := by
  have hCounted : Counted s :=
    hRun.invariant_of wellFormed_of_reaches counted_init
      (fun hWF hCounted hOk hStep => counted_step hWF hCounted hOk (stepped_of_step hStep))
  exact (hCounted.stamps stamp hStamp f hFlow).2

def sendByte (seqNum : UInt32) (byte : UInt8) : List Event :=
  [.packet (fromApp ⟨1, 1, 1, 1⟩ seqNum [byte]).encode 0 0, .resume, .resume]

/- An enqueued byte is acknowledged. -/
theorem ackWithin_of_stamp_sendByte :
  ∃ (s : Bridge) (stamp : Stamp), stamp ∈ s.tun ∧ stamp.flow = some 0 ∧ stamp.kept = 1 ∧
  stamp.packet.ack = 102 ∧ AckWithin (s.flows 0).key.seqNum stamp.kept stamp.packet.ack := by
  rcases exists_reaches step AcksKept init (fun s => s.tun.getLast?.any fun stamp =>
    stamp.flow = some 0 ∧ stamp.kept = 1 ∧ stamp.packet.ack = 102)
    (connectFirst ++ sendByte 101 65)
    (by decide +kernel) (by decide +kernel) with
    ⟨s, hRun, hEnd⟩
  cases hLast : s.tun.getLast? with
  | none => simp [hLast] at hEnd
  | some stamp =>
    rw [hLast] at hEnd
    rcases of_decide_eq_true hEnd with ⟨hFlow, hKept, hAck⟩
    have hMem := mem_of_getLast? hLast
    exact ⟨s, stamp, hMem, hFlow, hKept, hAck, ackWithin_of_stamp s hRun stamp hMem 0 hFlow⟩

/- The writer fails after the first byte. -/
theorem acknowledged_and_lost : ¬ ∀ s : Bridge, Reaches step Always init s → ∀ stamp ∈ s.tun,
  ∀ f, stamp.flow = some f → AckWithin (s.flows f).key.seqNum stamp.kept stamp.packet.ack := by
  intro hAll
  rcases exists_reaches step Always init (fun s =>
    (s.flows 0).key.seqNum = 100 ∧ s.tun.getLast?.any fun stamp =>
      stamp.flow = some 0 ∧ stamp.kept = 1 ∧ stamp.packet.ack = 103)
    (connectFirst ++ sendByte 101 65 ++ [.writer 0 .recv, .writer 0 .failed] ++ sendByte 102 66)
    (taken_always _ _ _) (by decide +kernel) with
    ⟨s, hRun, hEnd⟩
  rcases of_decide_eq_true hEnd with ⟨hSeq, hAny⟩
  cases hLast : s.tun.getLast? with
  | none => simp [hLast] at hAny
  | some stamp =>
    rw [hLast] at hAny
    rcases of_decide_eq_true hAny with ⟨hFlow, hKept, hAck⟩
    rcases hAll s hRun stamp (mem_of_getLast? hLast) 0 hFlow with ⟨j, hJ, hWithin⟩
    rw [hSeq, hAck] at hWithin
    rw [hKept] at hJ
    rcases Nat.le_one_iff_eq_zero_or_eq_one.mp hJ with rfl | rfl
    all_goals exact absurd hWithin (by decide)

end Bridge

end Kourosh.Tun2socks
