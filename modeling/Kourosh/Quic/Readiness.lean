import Kourosh.Quic.Tunnel

/-
  Readiness of the QUIC tunnel.

  A status of 200 on the request stream is what the edge accepts the tunnel with.

  Correctness is proven by:
    * `gated_iff_inOrder`
-/

-- Orders Of Marks

namespace Kourosh.Quic

open List

def Mark.isReady : Mark → Bool
| .ready _ _ => true
| _ => false

def Gated (marks : List Mark) : Prop := ∀ front mark rest, marks = front ++ mark :: rest →
  mark ≠ .accepted → .accepted ∈ front

lemma gated_nil : Gated [] := by
  intro front mark rest hSplit
  simp at hSplit

variable {mark : Mark} {marks : List Mark} {more : List Mark}

lemma gated_cons_iff : Gated (mark :: marks) ↔ mark = .accepted := by
  constructor
  · intro hGated
    by_contra hOther
    exact absurd (hGated [] mark marks rfl hOther) not_mem_nil
  · rintro rfl front other rest hSplit hOther
    cases front with
    | nil =>
      rw [nil_append, cons.injEq] at hSplit
      exact absurd hSplit.1.symm hOther
    | cons =>
      rw [cons_append, cons.injEq] at hSplit
      rw [← hSplit.1]
      exact mem_cons_self

lemma Gated.of_append (hGated : Gated (marks ++ more)) : Gated marks := by
  cases marks with
  | nil => exact gated_nil
  | cons =>
    rw [cons_append, gated_cons_iff] at hGated
    exact gated_cons_iff.mpr hGated

lemma Gated.append (hGated : Gated marks)
  (hAccepted : .accepted ∈ marks) (more : List Mark) : Gated (marks ++ more) := by
  cases marks with
  | nil => cases hAccepted
  | cons =>
    rw [gated_cons_iff] at hGated
    exact gated_cons_iff.mpr hGated

lemma Gated.append_accepted (hGated : Gated marks) (more : List Mark) :
  Gated (marks ++ .accepted :: more) := by
  cases marks with
  | nil => exact gated_cons_iff.mpr rfl
  | cons =>
    rw [gated_cons_iff] at hGated
    exact gated_cons_iff.mpr hGated

-- One Step

namespace Tunnel

/-
  If the packets of a drain make the last round trip that is asked for, the edge has accepted the
  request before.
-/
def InOrder (s : Tunnel) : Event → Prop
| .drain received =>
  s.delivers received = true →
  s.readyFired = false →
  dataProbeRequiredSuccesses ≤ s.validateSuccesses + 1 →
  .accepted ∈ s.marks
| _ => True

instance (s : Tunnel) : (e : Event) → Decidable (s.InOrder e)
| .wake _ _ => inferInstanceAs (Decidable True)
| .connect _ _ _ => inferInstanceAs (Decidable True)
| .poll _ => inferInstanceAs (Decidable True)
| .drain received =>
  inferInstanceAs (Decidable (s.delivers received = true → s.readyFired = false →
    dataProbeRequiredSuccesses ≤ s.validateSuccesses + 1 →
    .accepted ∈ s.marks))
| .flush _ _ _ _ => inferInstanceAs (Decidable True)

inductive Marked (s : Tunnel) (e : Event) (s' : Tunnel) : Prop where
  | quiet
    (hOrder : s.InOrder e) (hFired : s'.readyFired = s.readyFired) (hMarks : s'.marks = s.marks)
  | encoded (packets : List (Bytes × Bytes))
    (hOrder : s.InOrder e) (hReady : s.readyFired = true) (hFired : s'.readyFired = true)
    (hMarks : s'.marks = s.marks ++ packets.map fun p => .encoded p.1 p.2)
  | accepted (hOrder : s.InOrder e)
    (hFired : s'.readyFired = s.readyFired) (hMarks : s'.marks = s.marks ++ [.accepted])
  | acceptedReady (announced sent : Bool)
    (hOrder : s.InOrder e) (hFired : s.readyFired = false) (hFired' : s'.readyFired = true)
    (hMarks : s'.marks = s.marks ++ [.accepted, .ready announced sent])
  | validated (announced sent : Bool)
    (hOrder : s.InOrder e ↔ .accepted ∈ s.marks) (hFired : s.readyFired = false)
    (hFired' : s'.readyFired = true) (hMarks : s'.marks = s.marks ++ [.ready announced sent])

variable {c : Config} {s s' : Tunnel} {e : Event}

variable {now : Nat} {arm : Arm} {events : List Event}

/- Only a device packet marks in the `select!`. -/
lemma marked_of_select (hSelect : s.select c arm = some s') : Marked s (.wake now arm) s' := by
  cases arm with
  | keepalive | received | timeout =>
    cases hSelect
    exact .quiet trivial rfl rfl
  | probe | outboundClosed =>
    rcases Option.ite_none_right_eq_some.mp hSelect with ⟨_, hSame⟩
    cases hSame
    exact .quiet trivial rfl rfl
  | control message =>
    rcases Option.ite_none_right_eq_some.mp hSelect with ⟨_, hSame⟩
    rcases message with _ | message
    · cases hSame
      exact .quiet trivial rfl rfl
    · cases message with
      | migrate | close =>
        cases hSame
        exact .quiet trivial rfl rfl
  | outbound packet queued =>
    rcases Option.ite_none_right_eq_some.mp hSelect with ⟨_, hSame⟩
    cases hSame
    cases hStream : s.reqStream with
    | none =>
      simp only [sendOutbound, hStream]
      exact .quiet trivial rfl rfl
    | some streamId =>
      cases hFired : s.readyFired with
      | false =>
        simp only [sendOutbound, hStream, hFired]
        exact .quiet trivial hFired.symm rfl
      | true =>
        simp only [sendOutbound, hStream, hFired]
        refine .encoded ((packet :: batch (packetBatch - 1) queued).map
          fun p => (p, Masque.encodeIpDatagram streamId p))
          trivial hFired hFired ?_
        rw [map_map]
        rfl

lemma Marked.goto (hMarked : Marked s e s') (phase : Phase) : Marked s e (s'.goto phase) := by
  cases hMarked with
  | quiet hOrder hFired hMarks => exact .quiet hOrder hFired hMarks
  | encoded packets hOrder hReady hFired hMarks =>
    exact .encoded packets hOrder hReady hFired hMarks
  | accepted hOrder hFired hMarks => exact .accepted hOrder hFired hMarks
  | acceptedReady announced sent hOrder hFired hFired' hMarks =>
    exact .acceptedReady announced sent hOrder hFired hFired' hMarks
  | validated announced sent hOrder hFired hFired' hMarks =>
    exact .validated announced sent hOrder hFired hFired' hMarks

lemma marked_wake (hWake : s.wake c now arm = some s') : Marked s (.wake now arm) s' := by
  simp only [wake] at hWake
  split at hWake
  · cases hWake
    exact .quiet trivial rfl rfl
  · rcases Option.map_eq_some_iff.mp hWake with ⟨s₁, hSelect, rfl⟩
    exact (marked_of_select hSelect).goto .connect

lemma marked_connect
  (s : Tunnel) (established : Bool) (opened : Except AetherError Nat) (now : Nat) :
  Marked s (.connect established opened now) (s.connect c established opened now) := by
  simp only [connect]
  split
  · cases opened with
    | error | ok => exact .quiet trivial rfl rfl
  · exact .quiet trivial rfl rfl

section

variable (s : Tunnel) (p : Polled) (events : List H3Event)

lemma marked_polled : Marked s (.poll events) (s.polled p) := by
  cases hAccepted : p.accepted with
  | false =>
    refine .quiet trivial rfl ?_
    simp [polled, hAccepted]
  | true =>
    refine .accepted trivial rfl ?_
    simp [polled, hAccepted]

lemma marked_answer : Marked s (.poll events) (s.answer c p) := by
  cases hError : p.error with
  | some =>
    simp only [answer, hError]
    exact (marked_polled s p events).goto _
  | none =>
    simp only [answer, hError]
    split
    next hFires =>
      simp only [Bool.and_eq_true, Bool.not_eq_true'] at hFires
      refine .acceptedReady c.announce s.readyTx trivial hFires.2 rfl ?_
      simp [fire, polled, Tunnel.goto, hFires.1.1]
    · exact (marked_polled s p events).goto _

end

lemma marked_poll
  {events : List H3Event} (hPoll : s.poll c events = some s') : Marked s (.poll events) s' := by
  simp only [poll] at hPoll
  split at hPoll
  · cases hPoll
    apply marked_answer
  · rcases Option.ite_none_right_eq_some.mp hPoll with ⟨_, hSame⟩
    cases hSame
    exact .quiet trivial rfl rfl

section

variable (s : Tunnel) (received : List (Bytes × TrySend))

lemma deliver_kept : (s.deliver received).readyFired = s.readyFired ∧
  (s.deliver received).marks = s.marks ∧
  (s.deliver received).validateSuccesses = s.validateSuccesses := by
  unfold deliver
  split
  all_goals exact ⟨rfl, rfl, rfl⟩

lemma marked_drain : Marked s (.drain received) (s.drain c received) := by
  rcases deliver_kept s received with ⟨hFired', hMarks', hCount'⟩
  unfold drain
  split
  next hCounts =>
    simp only [Bool.and_eq_true, Bool.not_eq_true'] at hCounts
    rcases hCounts with ⟨hDelivers, hFired⟩
    unfold validate
    split
    next hLast =>
      rw [hCount'] at hLast
      refine .validated c.announce (s.deliver received).readyTx ?_ hFired rfl ?_
      · constructor
        · intro hOrder
          exact hOrder hDelivers hFired hLast
        · intro hAccepted _ _ _
          exact hAccepted
      · exact congrArg (· ++ _) hMarks'
    next hMore =>
      rw [hCount'] at hMore
      refine .quiet ?_ hFired' hMarks'
      intro _ _ hLast
      exact absurd hLast hMore
  next hIdle =>
    refine .quiet ?_ hFired' hMarks'
    intro hDelivers hFired _
    exact absurd (by simp [hDelivers, hFired]) hIdle

end

lemma marked_flush (s : Tunnel) (flushed : Except AetherError Unit)
  (closed : Bool) (retry : Option Bytes) (reconnected : Except AetherError Unit) : Marked s
  (.flush flushed closed retry reconnected) (s.flush flushed closed retry reconnected) := by
  unfold flush
  split
  · exact .quiet trivial rfl rfl
  · split
    · split
      · split
        all_goals exact .quiet trivial rfl rfl
      · exact .quiet trivial rfl rfl
    · exact .quiet trivial rfl rfl

lemma marked_of_step (hStep : s.step c e = some s') : Marked s e s' := by
  simp only [step] at hStep
  split at hStep
  · exact marked_wake hStep
  · cases hStep
    apply marked_connect
  · exact marked_poll hStep
  · cases hStep
    apply marked_drain
  · cases hStep
    apply marked_flush
  · cases hStep

-- Whole Runs

structure Sound (s : Tunnel) : Prop where
  gated : Gated s.marks
  accepted : s.readyFired = true → .accepted ∈ s.marks

lemma sound_start (readyTx : Bool) (ech : Option Bytes) : (start readyTx ech).Sound where
  gated := gated_nil
  accepted := nofun

lemma sound_of_append (hGated : Gated marks)
  (hAccepted : .accepted ∈ marks) (hMarks : s'.marks = marks ++ more) : s'.Sound where
  gated := by
    rw [hMarks]
    exact hGated.append hAccepted more
  accepted := by
    intro _
    rw [hMarks]
    exact mem_append_left _ hAccepted

lemma sound_of_accepted
  (hSound : s.Sound) (hMarks : s'.marks = s.marks ++ .accepted :: more) : s'.Sound where
  gated := by
    rw [hMarks]
    exact hSound.gated.append_accepted more
  accepted := by
    intro _
    rw [hMarks]
    exact mem_append_right _ mem_cons_self

lemma Sound.of_marked
  (hSound : s.Sound) (hMarked : Marked s e s') (hOrder : s.InOrder e) : s'.Sound := by
  cases hMarked with
  | quiet _ hFired hMarks =>
    refine ⟨?_, ?_⟩
    · rw [hMarks]
      exact hSound.gated
    · rw [hMarks, hFired]
      exact hSound.accepted
  | encoded _ _ hReady _ hMarks =>
    exact sound_of_append hSound.gated (hSound.accepted hReady) hMarks
  | accepted _ _ hMarks | acceptedReady _ _ _ _ _ hMarks => exact sound_of_accepted hSound hMarks
  | validated _ _ hIff _ _ hMarks => exact sound_of_append hSound.gated (hIff.mp hOrder) hMarks

lemma inOrder_of_gated (hMarked : Marked s e s') (hGated : Gated s'.marks) : s.InOrder e := by
  cases hMarked with
  | quiet hOrder | encoded _ hOrder | accepted hOrder | acceptedReady _ _ hOrder => exact hOrder
  | validated _ _ hIff _ _ hMarks =>
    rw [hMarks] at hGated
    exact hIff.mpr (hGated _ _ [] rfl (by simp))

lemma exists_append_of_marked (hMarked : Marked s e s') : ∃ more, s'.marks = s.marks ++ more := by
  cases hMarked with
  | quiet _ _ hMarks => exact ⟨[], by rw [hMarks, append_nil]⟩
  | encoded _ _ _ _ hMarks | accepted _ _ hMarks
  | acceptedReady _ _ _ _ _ hMarks | validated _ _ _ _ _ hMarks => exact ⟨_, hMarks⟩

lemma exists_append_of_exec (hExec : Run.exec (step c) s events = some s') :
  ∃ more, s'.marks = s.marks ++ more := by
  induction events generalizing s with
  | nil =>
    cases hExec
    exact ⟨[], (append_nil _).symm⟩
  | cons _ _ ih =>
    rcases Option.bind_eq_some_iff.mp hExec with ⟨s₁, hStep, hRest⟩
    rcases exists_append_of_marked (marked_of_step hStep) with ⟨first, hFirst⟩
    rcases ih hRest with ⟨later, hLater⟩
    refine ⟨first ++ later, ?_⟩
    rw [hLater, hFirst, append_assoc]

lemma gated_iff_taken (hSound : s.Sound) (hExec : Run.exec (step c) s events = some s') :
  Gated s'.marks ↔ Run.Taken (step c) InOrder s events := by
  induction events generalizing s with
  | nil =>
    cases hExec
    exact ⟨fun _ => trivial, fun _ => hSound.gated⟩
  | cons _ _ ih =>
    rcases Option.bind_eq_some_iff.mp hExec with ⟨s₁, hStep, hRest⟩
    have hMarked := marked_of_step hStep
    constructor
    · intro hGated
      rcases exists_append_of_exec hRest with ⟨more, hMore⟩
      have hBefore := hGated
      rw [hMore] at hBefore
      have hOrder := inOrder_of_gated hMarked hBefore.of_append
      refine ⟨hOrder, ?_⟩
      intro s₂ hSame
      rw [hStep] at hSame
      cases hSame
      exact (ih (hSound.of_marked hMarked hOrder) hRest).mp hGated
    · rintro ⟨hOrder, hLater⟩
      exact (ih (hSound.of_marked hMarked hOrder) hRest).mpr (hLater s₁ hStep)

def Counted (s : Tunnel) : Prop := s.marks.countP Mark.isReady = if s.readyFired then 1 else 0

lemma countP_encoded (packets : List (Bytes × Bytes)) :
  (packets.map fun p => Mark.encoded p.1 p.2).countP Mark.isReady = 0 := by
  rw [countP_eq_zero]
  intro mark hMem
  rcases mem_map.mp hMem with ⟨p, _, rfl⟩
  simp [Mark.isReady]

lemma Counted.of_marked (hCounted : s.Counted) (hMarked : Marked s e s') : s'.Counted := by
  unfold Counted at hCounted ⊢
  cases hMarked with
  | quiet _ hFired hMarks =>
    rw [hMarks, hFired]
    exact hCounted
  | encoded _ _ hReady hFired hMarks =>
    rw [hReady] at hCounted
    rw [hMarks, hFired, countP_append, hCounted, countP_encoded]
    rfl
  | accepted _ hFired hMarks =>
    rw [hMarks, hFired, countP_append, hCounted]
    rfl
  | acceptedReady _ _ _ hFired hFired' hMarks
  | validated _ _ _ hFired hFired' hMarks =>
    rw [hFired] at hCounted
    rw [hMarks, hFired', countP_append, hCounted]
    rfl

lemma counted_of_exec
  (hCounted : s.Counted) (hExec : Run.exec (step c) s events = some s') : s'.Counted := by
  apply Run.Reaches.invariant (I := Counted) hCounted
    (fun hOld _ hStep => hOld.of_marked (marked_of_step hStep))
  exact Run.Reaches.start.of_exec hExec (Run.taken_always _ s events)

/-
  Ready is signalled at most once, and only behind the answer exactly if the steps are in order.
-/
theorem gated_iff_inOrder
    (c : Config)
    (readyTx : Bool)
    (ech : Option Bytes)
    (events : List Event)
    (s : Tunnel)
    (hExec : Run.exec (step c) (start readyTx ech) events = some s) :
    (Gated s.marks ∧ s.marks.countP Mark.isReady ≤ 1) ↔
      Run.Taken (step c) InOrder (start readyTx ech) events := by
  have hOnce : s.marks.countP Mark.isReady ≤ 1 := by
    have hStart : (start readyTx ech).Counted := rfl
    have hCounted : s.Counted := counted_of_exec hStart hExec
    rw [hCounted]
    split
    · exact Nat.le_refl 1
    · exact Nat.zero_le 1
  rw [← gated_iff_taken (sound_start readyTx ech) hExec]
  constructor
  · rintro ⟨hGated, _⟩
    exact hGated
  · intro hGated
    exact ⟨hGated, hOnce⟩

def turnEvents (arm : Arm) (answers : List H3Event)
  (received : List (Bytes × TrySend)) : List Event :=
  [.wake 0 arm, .connect true (.ok 0) 0, .poll answers,
    .drain received, .flush (.ok ()) false none (.ok ())]

def plainConfig : Config where
  t := .w64
  dataCheck := false
  announce := true
  validationTimeout := 10

def edgePacket : Bytes × TrySend := (Masque.encodeIpDatagram 0 [0x45], .sent)

def acceptedRun : List Event :=
  turnEvents .received [.headers 0 [(statusName, status200)]] [edgePacket] ++
    turnEvents (.outbound [0x45] []) [] [edgePacket]

theorem gated_iff_inOrder_accepted :
  ∃ s, Run.exec (step plainConfig) (start true none) acceptedRun = some s ∧
  s.marks = [.accepted, .ready true true, .encoded [0x45] [0, 0, 0x45]] ∧ Gated s.marks := by
  refine ⟨_, rfl, by decide, ?_⟩
  exact ((gated_iff_inOrder plainConfig true none acceptedRun _ rfl).mpr (by decide)).1

/-
  Two packets of the edge overtake its answer: ready is signalled and a device packet is encoded
  without a 200.
-/
def overtakenRun : List Event := turnEvents .received [] [edgePacket] ++
  turnEvents .received [] [edgePacket] ++
  turnEvents (.outbound [0x45] []) [] []

theorem ready_without_status : ∃ s, Run.exec (step plainConfig) (start true none) overtakenRun =
  some s ∧ s.marks = [.ready true true, .encoded [0x45] [0, 0, 0x45]] ∧ ¬Gated s.marks := by
  refine ⟨_, rfl, by decide, ?_⟩
  intro hGated
  exact absurd (gated_cons_iff.mp hGated) (by decide)

end Tunnel

end Kourosh.Quic
