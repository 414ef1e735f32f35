import Mathlib.Data.List.Basic

/-
  Incremental framing of a stream.

  A framing takes one frame off the front of a buffer, or reports that the buffer does not hold a
  whole frame yet.
-/

-- Framings

/- A front reader of whole frames. -/
structure Framing (α β : Type) where
  next : List α → Option (β × List α)
  next_frame : ∀ {buf rest : List α} {r : β}, next buf = some (r, rest) →
    ∃ frame, frame ≠ [] ∧ buf = frame ++ rest ∧ ∀ more, next (frame ++ more) = some (r, more)

namespace Framing

open List

variable {α β γ : Type} (F : Framing α β)

variable {buf front rest : List α} {r : β} {done : List β}

lemma length_lt_of_next (hNext : F.next buf = some (r, rest)) : rest.length < buf.length := by
  rcases F.next_frame hNext with ⟨frame, hFrame, rfl, -⟩
  have hPos : 0 < frame.length := length_pos_iff.mpr hFrame
  simp only [length_append]
  omega

lemma next_append (hNext : F.next buf = some (r, rest)) (more : List α) :
  F.next (buf ++ more) = some (r, rest ++ more) := by
  rcases F.next_frame hNext with ⟨frame, -, rfl, hMore⟩
  rw [append_assoc]
  exact hMore (rest ++ more)

@[simp] lemma next_nil : F.next [] = none := by
  cases hNext : F.next [] with
  | none => rfl
  | some answer =>
    rcases answer with ⟨r, rest⟩
    have hLength := F.length_lt_of_next hNext
    simp at hLength

-- Draining

/- Read frames until none is left whole. -/
def drain (buf : List α) : List β × List α :=
  match _hNext : F.next buf with
  | none => ([], buf)
  | some (r, rest) => (r :: (drain rest).1, (drain rest).2)
termination_by buf.length
decreasing_by all_goals exact F.length_lt_of_next _hNext

lemma drain_of_none (hNext : F.next buf = none) : F.drain buf = ([], buf) := by
  rw [drain]
  split
  · rfl
  · simp_all

lemma drain_of_some (hNext : F.next buf = some (r, rest)) :
  F.drain buf = (r :: (F.drain rest).1, (F.drain rest).2) := by
  rw [drain]
  split
  · simp_all
  next hOther =>
    rw [hNext] at hOther
    cases hOther
    rfl

@[simp] lemma drain_nil : F.drain [] = ([], []) := F.drain_of_none F.next_nil

/-
  Induction along a drain: a buffer without a whole frame, or a buffer whose first frame has been
  taken off.
-/
lemma drain_induction {motive : List α → Prop} (stop : ∀ buf, F.next buf = none → motive buf)
  (step : ∀ buf r rest, F.next buf = some (r, rest) → motive rest → motive buf)
  (buf : List α) : motive buf := by
  induction hLength : buf.length using Nat.strongRecOn generalizing buf with
  | ind n ih =>
    cases hNext : F.next buf with
    | none => exact stop buf hNext
    | some answer =>
      rcases answer with ⟨r, rest⟩
      have hLt := F.length_lt_of_next hNext
      exact step buf r rest hNext (ih rest.length (by omega) rest rfl)

lemma next_drain_eq_none (buf : List α) : F.next (F.drain buf).2 = none := by
  induction buf using F.drain_induction with
  | stop _ hNext =>
    rw [F.drain_of_none hNext]
    exact hNext
  | step _ _ _ hNext ih =>
    rw [F.drain_of_some hNext]
    exact ih

lemma length_drain_le (buf : List α) : (F.drain buf).2.length ≤ buf.length := by
  induction buf using F.drain_induction with
  | stop _ hNext => simp [F.drain_of_none hNext]
  | step _ _ _ hNext =>
    have hLt := F.length_lt_of_next hNext
    rw [F.drain_of_some hNext]
    simp only
    omega

/-
  Draining a concatenation: the frames of the first part come first, then those of its tail joined
  with the rest.
-/
lemma drain_append (buf more : List α) : F.drain (buf ++ more) = ((F.drain buf).1 ++
  (F.drain ((F.drain buf).2 ++ more)).1, (F.drain ((F.drain buf).2 ++ more)).2) := by
  induction buf using F.drain_induction with
  | stop _ hNext => simp [F.drain_of_none hNext]
  | step _ _ _ hNext ih =>
    rw [F.drain_of_some (F.next_append hNext more), F.drain_of_some hNext, ih]
    simp

lemma drain_front_append (hFront : F.drain front = (done, []))
  (more : List α) : F.drain (front ++ more) = (done ++ (F.drain more).1, (F.drain more).2) := by
  rw [F.drain_append, hFront]
  simp

lemma drain_front_snoc (hFront : F.drain front = (done, [])) (hNext : F.next buf = some (r, rest)) :
  ∃ frame, buf = frame ++ rest ∧ F.drain (front ++ frame) = (done ++ [r], []) := by
  rcases F.next_frame hNext with ⟨frame, -, hBuf, hMore⟩
  refine ⟨frame, hBuf, ?_⟩
  have hFrame : F.next frame = some (r, []) := by simpa using hMore []
  rw [F.drain_front_append hFront, F.drain_of_some hFrame]
  simp

-- Feeding Chunks

/- Append each chunk to the unread tail and drain. -/
def feed (buf : List α) : List (List α) → List β × List α
| [] => ([], buf)
| chunk :: chunks =>
  let drained := F.drain (buf ++ chunk)
  let fed := feed drained.2 chunks
  (drained.1 ++ fed.1, fed.2)

/-
  Feeding does not depend on how the stream was cut: it gives what one drain of the whole stream
  gives.
-/
lemma feed_eq_drain_flatten (buf : List α) (chunks : List (List α))
  (hBuf : F.next buf = none) : F.feed buf chunks = F.drain (buf ++ chunks.flatten) := by
  induction chunks generalizing buf with
  | nil => simp [feed, F.drain_of_none hBuf]
  | cons chunk _ ih =>
    have hTail := F.next_drain_eq_none (buf ++ chunk)
    rw [flatten_cons, ← append_assoc, F.drain_append (buf ++ chunk)]
    simp only [feed, ih _ hTail]

/-
  A stream of encoded messages drains to the answers of the messages and leaves nothing, when
  reading one encoded message off the front gives its answer.
-/
lemma drain_flatten_encode (encode : γ → List α) (answer : γ → β)
  (hNext : ∀ message more, F.next (encode message ++ more) = some (answer message, more))
  (messages : List γ) : F.drain (messages.map encode).flatten = (messages.map answer, []) := by
  induction messages with
  | nil => simp
  | cons message _ ih =>
    rw [map_cons, flatten_cons, F.drain_of_some (hNext message _), ih]
    rfl

-- Loops That Can Stop

variable {σ : Type}

/- Hand one frame after the other to `handle`, as long as it says so. -/
def loop (handle : σ → β → σ × Bool) (s : σ) (buf : List α) : σ × List α :=
  match _hNext : F.next buf with
  | none => (s, buf)
  | some (r, rest) =>
    if (handle s r).2 then loop handle (handle s r).1 rest
    else ((handle s r).1, rest)
termination_by buf.length
decreasing_by exact F.length_lt_of_next _hNext

variable {handle : σ → β → σ × Bool}

lemma loop_of_none (s : σ) (hNext : F.next buf = none) : F.loop handle s buf = (s, buf) := by
  rw [loop]
  split
  · rfl
  · simp_all

lemma loop_of_some (s : σ) (hNext : F.next buf = some (r, rest)) : F.loop handle s buf =
  if (handle s r).2 then F.loop handle (handle s r).1 rest
  else ((handle s r).1, rest) := by
  rw [loop]
  split
  · simp_all
  next hOther =>
    rw [hNext] at hOther
    cases hOther
    rfl

def RunsOut (handle : σ → β → σ × Bool) : σ → List β → Prop
| _, [] => True
| s, r :: rs => ((handle s r).2 = true ∨ rs = []) ∧ RunsOut handle (handle s r).1 rs

lemma drain_fst_eq_nil_iff : (F.drain buf).1 = [] ↔ F.next buf = none := by
  cases hNext : F.next buf with
  | none => simp [F.drain_of_none hNext]
  | some => simp [F.drain_of_some hNext]

lemma next_loop_eq_none_iff (s : σ)
  (buf : List α) : F.next (F.loop handle s buf).2 = none ↔ RunsOut handle s (F.drain buf).1 := by
  induction buf using F.drain_induction generalizing s with
  | stop _ hNext => simp [F.loop_of_none s hNext, F.drain_of_none hNext, RunsOut, hNext]
  | step _ r _ hNext ih =>
    rw [F.loop_of_some s hNext, F.drain_of_some hNext, RunsOut]
    cases hMore : (handle s r).2 with
    | true =>
      rw [if_pos rfl, ih]
      simp
    | false =>
      rw [if_neg Bool.false_ne_true, ← F.drain_fst_eq_nil_iff]
      constructor
      · intro hEnd
        refine ⟨.inr hEnd, ?_⟩
        rw [hEnd]
        trivial
      · intro hEnd
        rcases hEnd.1 with hFalse | hEnd
        · cases hFalse
        · exact hEnd

lemma loop_of_runsOut {s : σ} (hRuns : RunsOut handle s (F.drain buf).1) : F.loop handle s buf =
  ((F.drain buf).1.foldl (fun s r => (handle s r).1) s, (F.drain buf).2) := by
  induction buf using F.drain_induction generalizing s with
  | stop _ hNext =>
    rw [F.loop_of_none s hNext, F.drain_of_none hNext]
    rfl
  | step _ r _ hNext ih =>
    rw [F.drain_of_some hNext] at hRuns ⊢
    rw [F.loop_of_some s hNext, foldl_cons]
    cases hMore : (handle s r).2 with
    | true => rw [if_pos rfl, ih hRuns.2]
    | false =>
      rcases hRuns.1 with hTrue | hEnd
      · rw [hMore] at hTrue
        cases hTrue
      · have hNone := F.drain_fst_eq_nil_iff.mp hEnd
        rw [if_neg Bool.false_ne_true, F.drain_of_none hNone]
        rfl

end Framing
