import Mathlib.Data.List.Basic

/-
  A bounded channel whose sender never waits.

  The receiver reads messages and may leave at any time.
-/

-- Sender And Receiver

/-
  A channel, with a label that tells channels apart and the list of everything that was ever sent
  on it.
-/
structure Channel (α : Type) where
  label : Nat
  capacity : Nat
  queue : List α
  delivered : List α
  alive : Bool

namespace Channel

variable {α : Type}

inductive Move where
  | read
  | leave
deriving DecidableEq

inductive Reservation where
  | slot
  | full
  | closed
deriving DecidableEq

def empty (label capacity : Nat) : Channel α where
  label := label
  capacity := capacity
  queue := []
  delivered := []
  alive := true

def setQueue (ch : Channel α) (queue : List α) : Channel α := { ch with queue := queue }

def close (ch : Channel α) : Channel α := { ch with alive := false }

def act (ch : Channel α) : Move → Channel α
| .read => ch.setQueue ch.queue.tail
| .leave => ch.close

def acts (ch : Channel α) (moves : List Move) : Channel α := moves.foldl act ch

def tryReserve (ch : Channel α) : Reservation :=
  if !ch.alive then .closed
  else if ch.queue.length < ch.capacity then .slot
  else .full

def send (ch : Channel α) (item : α) : Channel α :=
  { ch with queue := ch.queue ++ [item], delivered := ch.delivered ++ [item] }

section

variable (ch : Channel α)

@[simp] lemma acts_kept (moves : List Move) : (ch.acts moves).label = ch.label ∧
  (ch.acts moves).delivered = ch.delivered ∧ (ch.acts moves).capacity = ch.capacity := by
  induction moves generalizing ch with
  | nil => exact ⟨rfl, rfl, rfl⟩
  | cons move _ ih => cases move <;> exact ih _

end

variable {ch : Channel α} {moves : List Move} {limit : Nat}
variable {turns : List (List Move)} {source : List α}

lemma alive_of_acts (hAlive : (ch.acts moves).alive) : ch.alive := by
  induction moves generalizing ch with
  | nil => exact hAlive
  | cons move _ ih =>
    have hNext := ih hAlive
    cases move with
    | read => exact hNext
    | leave => cases hNext

lemma tryReserve_eq_slot_iff
  (ch : Channel α) : ch.tryReserve = .slot ↔ ch.alive ∧ ch.queue.length < ch.capacity := by
  unfold tryReserve
  cases ch.alive with
  | false | true => simp

lemma tryReserve_eq_closed_iff (ch : Channel α) : ch.tryReserve = .closed ↔ ch.alive = false := by
  unfold tryReserve
  cases ch.alive with
  | false => simp
  | true =>
    simp only [Bool.not_true, Bool.false_eq_true, if_false]
    split
    all_goals simp

-- The Loop Of The Sender

structure Delivery (α : Type) where
  rest : List α
  channel : Channel α
  stopped : Reservation

/- Send items until there is no slot, no item, or the limit is reached. -/
def deliver : Nat → List (List Move) → List α → Channel α → Delivery α
| 0, _, source, ch => ⟨source, ch, .slot⟩
| limit + 1, turns, source, ch =>
  match (ch.acts (turns.headD [])).tryReserve with
  | .closed => ⟨source, ch.acts (turns.headD []), .closed⟩
  | .full => ⟨source, ch.acts (turns.headD []), .full⟩
  | .slot =>
    match source with
    | [] => ⟨[], ch.acts (turns.headD []), .slot⟩
    | item :: source => deliver limit turns.tail source ((ch.acts (turns.headD [])).send item)

section

variable (limit : Nat) (turns : List (List Move)) (source : List α) (ch : Channel α)

lemma deliver_kept : (deliver limit turns source ch).channel.label = ch.label ∧
  (deliver limit turns source ch).channel.delivered ++
    (deliver limit turns source ch).rest = ch.delivered ++ source := by
  fun_induction deliver limit turns source ch with
  | case1 => exact ⟨rfl, rfl⟩
  | case2 | case3 | case4 => simp
  | case5 _ _ _ _ _ _ ih => simpa [send] using ih

end

lemma alive_of_deliver (hAlive : (deliver limit turns source ch).channel.alive) : ch.alive := by
  fun_induction deliver limit turns source ch with
  | case1 => exact hAlive
  | case2 | case3 | case4 => exact alive_of_acts hAlive
  | case5 _ _ _ _ _ _ ih => exact alive_of_acts (ih hAlive)

lemma alive_eq_false_of_deliver (hStopped : (deliver limit turns source ch).stopped = .closed) :
  (deliver limit turns source ch).channel.alive = false := by
  fun_induction deliver limit turns source ch with
  | case1 | case3 | case4 => cases hStopped
  | case2 _ _ _ _ hClosed => exact (tryReserve_eq_closed_iff _).mp hClosed
  | case5 _ _ _ _ _ _ ih => exact ih hStopped

-- A Receiver That Keeps Up

def reads (moves : List Move) : Nat := moves.count .read

/-
  With `queued` messages waiting, the reads leave a free slot for each of the next `items` items,
  unless the receiver leaves.
-/
def RoomFor (capacity : Nat) : List (List Move) → Nat → Nat → Prop
| _, _, 0 => True
| turns, queued, items + 1 =>
  .leave ∈ turns.headD [] ∨ queued - reads (turns.headD []) < capacity ∧
    RoomFor capacity turns.tail (queued - reads (turns.headD []) + 1) items

instance decidableRoomFor (capacity : Nat) : ∀ (turns : List (List Move)) (queued items : Nat),
  Decidable (RoomFor capacity turns queued items)
| _, _, 0 => inferInstanceAs (Decidable True)
| turns, queued, items + 1 =>
  have := decidableRoomFor capacity turns.tail (queued - reads (turns.headD []) + 1) items
  inferInstanceAs (Decidable (.leave ∈ turns.headD [] ∨
    queued - reads (turns.headD []) < capacity ∧ RoomFor capacity turns.tail
      (queued - reads (turns.headD []) + 1) items))

section

variable (ch : Channel α)

lemma acts_queue_length (moves : List Move) :
  (ch.acts moves).queue.length = ch.queue.length - reads moves := by
  induction moves generalizing ch with
  | nil => rfl
  | cons move moves ih =>
    have hRest := ih (ch.act move)
    cases move with
    | read =>
      have hReads : reads (.read :: moves) = reads moves + 1 := by simp [reads]
      have hTail : (ch.act .read).queue.length = ch.queue.length - 1 := by simp [act, setQueue]
      rw [hTail] at hRest
      rw [hReads]
      change ((ch.act .read).acts moves).queue.length = _
      omega
    | leave =>
      have hReads : reads (.leave :: moves) = reads moves := by simp [reads]
      rw [hReads]
      exact hRest

end

lemma leave_notMem_of_acts (hAlive : (ch.acts moves).alive) : .leave ∉ moves := by
  induction moves generalizing ch with
  | nil => exact List.not_mem_nil
  | cons move _ ih =>
    have hFirst : (ch.act move).alive := alive_of_acts hAlive
    have hRest := ih hAlive
    cases move with
    | read => simpa using hRest
    | leave => cases hFirst

lemma deliver_drains
  (hAlive : (deliver limit turns source ch).channel.alive) (hLimit : source.length ≤ limit)
  (hRoom : RoomFor ch.capacity turns ch.queue.length source.length) :
  (deliver limit turns source ch).rest = [] := by
  fun_induction deliver limit turns source ch with
  | case1 => exact List.length_eq_zero_iff.mp (Nat.le_zero.mp hLimit)
  | case2 _ _ _ _ hClosed =>
    rw [(tryReserve_eq_closed_iff _).mp hClosed] at hAlive
    cases hAlive
  | case3 _ turns source ch hFull =>
    cases source with
    | nil => rfl
    | cons =>
      have hSlot : (ch.acts (turns.headD [])).tryReserve = .slot := by
        apply (tryReserve_eq_slot_iff _).mpr
        refine ⟨hAlive, ?_⟩
        rw [acts_queue_length, (acts_kept _ _).2.2]
        rcases hRoom with hLeave | hRoom
        · exact absurd hLeave (leave_notMem_of_acts hAlive)
        · exact hRoom.1
      rw [hFull] at hSlot
      cases hSlot
  | case4 => rfl
  | case5 _ _ _ _ _ _ ih =>
    apply ih hAlive
    · simp only [List.length_cons] at hLimit
      omega
    · rcases hRoom with hLeave | hRoom
      · have hHere := alive_of_deliver hAlive
        exact absurd hLeave (leave_notMem_of_acts hHere)
      · have hRest := hRoom.2
        simpa [send, acts_queue_length] using hRest

end Channel
