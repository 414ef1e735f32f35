import Mathlib.Data.List.Basic

/-
  Tickets that are filed, taken and done.

  Every ticket has a number.
-/

-- Tickets

structure Tickets (κ ι : Type) where
  filed : κ → Option Nat
  taken : ι → Option Nat
  done : List Nat

namespace Tickets

open Function
open List

variable {κ ι : Type}

def empty : Tickets κ ι where
  filed := fun _ => none
  taken := fun _ => none
  done := []

inductive Placed (t : Tickets κ ι) (n : Nat) : Prop where
  | filed {key : κ} (hFiled : t.filed key = some n)
  | taken {worker : ι} (hTaken : t.taken worker = some n)
  | done (hDone : n ∈ t.done)

structure Once (t : Tickets κ ι) : Prop where
  filed_unique : ∀ {key key' n}, t.filed key = some n → t.filed key' = some n → key = key'
  taken_unique :
    ∀ {worker worker' n}, t.taken worker = some n → t.taken worker' = some n → worker = worker'
  filed_taken : ∀ {key worker n}, t.filed key = some n → t.taken worker ≠ some n
  filed_done : ∀ {key n}, t.filed key = some n → n ∉ t.done
  taken_done : ∀ {worker n}, t.taken worker = some n → n ∉ t.done
  nodup : t.done.Nodup

lemma not_placed_empty (n : Nat) : ¬ Placed (empty : Tickets κ ι) n := by
  intro hPlaced
  cases hPlaced with
  | filed hFiled => cases hFiled
  | taken hTaken => cases hTaken
  | done hDone => cases hDone

-- Filing

section Keys

variable [DecidableEq κ] {t : Tickets κ ι} {key : κ} {n m : Nat}

def file (t : Tickets κ ι) (key : κ) (n : Nat) : Tickets κ ι :=
  { t with filed := update t.filed key (some n) }

def withdraw (t : Tickets κ ι) (key : κ) : Tickets κ ι :=
  { t with filed := update t.filed key none }

variable {key' : κ}

lemma filed_file (hFiled : (t.file key n).filed key' = some m) :
  key' = key ∧ m = n ∨ key' ≠ key ∧ t.filed key' = some m := by
  by_cases hKey : key' = key
  · rw [hKey] at hFiled
    simp only [file, update_self, Option.some.injEq] at hFiled
    exact .inl ⟨hKey, hFiled.symm⟩
  · simp only [file, update_of_ne hKey] at hFiled
    exact .inr ⟨hKey, hFiled⟩

lemma filed_withdraw (hFiled : (t.withdraw key).filed key' = some m) : t.filed key' = some m := by
  by_cases hKey : key' = key
  · rw [hKey] at hFiled
    simp [withdraw] at hFiled
  · simp only [withdraw, update_of_ne hKey] at hFiled
    exact hFiled

lemma placed_file (hPlaced : Placed (t.file key n) m) : m = n ∨ Placed t m := by
  cases hPlaced with
  | filed hFiled =>
    rcases filed_file hFiled with ⟨-, hEq⟩ | ⟨-, hOld⟩
    · exact .inl hEq
    · exact .inr (.filed hOld)
  | taken hTaken => exact .inr (.taken hTaken)
  | done hDone => exact .inr (.done hDone)

lemma placed_withdraw (hPlaced : Placed (t.withdraw key) m) : Placed t m := by
  cases hPlaced with
  | filed hFiled => exact .filed (filed_withdraw hFiled)
  | taken hTaken => exact .taken hTaken
  | done hDone => exact .done hDone

lemma once_file (hOnce : Once t) (hNew : ¬ Placed t n) (key : κ) :
  Once (t.file key n) := { hOnce with
  filed_unique := by
    intro key' key'' m hLeft hRight
    rcases filed_file hLeft with ⟨hKey, hEq⟩ | ⟨-, hOld⟩
    · rcases filed_file hRight with ⟨hKey', -⟩ | ⟨-, hOld'⟩
      · exact hKey.trans hKey'.symm
      · rw [hEq] at hOld'
        exact absurd (.filed hOld') hNew
    · rcases filed_file hRight with ⟨-, hEq⟩ | ⟨-, hOld'⟩
      · rw [hEq] at hOld
        exact absurd (.filed hOld) hNew
      · exact hOnce.filed_unique hOld hOld'
  filed_taken := by
    intro key' worker m hFiled hTaken
    rcases filed_file hFiled with ⟨-, hEq⟩ | ⟨-, hOld⟩
    · rw [hEq] at hTaken
      exact hNew (.taken hTaken)
    · exact hOnce.filed_taken hOld hTaken
  filed_done := by
    intro key' m hFiled hDone
    rcases filed_file hFiled with ⟨-, hEq⟩ | ⟨-, hOld⟩
    · rw [hEq] at hDone
      exact hNew (.done hDone)
    · exact hOnce.filed_done hOld hDone }

lemma once_withdraw (hOnce : Once t) (key : κ) : Once (t.withdraw key) := { hOnce with
  filed_unique := fun hLeft hRight =>
    hOnce.filed_unique (filed_withdraw hLeft) (filed_withdraw hRight)
  filed_taken := fun hFiled => hOnce.filed_taken (filed_withdraw hFiled)
  filed_done := fun hFiled => hOnce.filed_done (filed_withdraw hFiled) }

end Keys

-- Workers

section Workers

variable [DecidableEq ι] {t : Tickets κ ι} {worker : ι} {n m : Nat}

def release (t : Tickets κ ι) (worker : ι) : Tickets κ ι :=
  { t with taken := update t.taken worker none }

def finish (t : Tickets κ ι) (worker : ι) (n : Nat) : Tickets κ ι :=
  { t.release worker with done := t.done ++ [n] }

lemma taken_release {worker' : ι} (hTaken : (t.release worker).taken worker' = some m) :
  worker' ≠ worker ∧ t.taken worker' = some m := by
  by_cases hWorker : worker' = worker
  · rw [hWorker] at hTaken
    simp [release] at hTaken
  · simp only [release, update_of_ne hWorker] at hTaken
    exact ⟨hWorker, hTaken⟩

lemma placed_release (hPlaced : Placed (t.release worker) m) : Placed t m := by
  cases hPlaced with
  | filed hFiled => exact .filed hFiled
  | taken hTaken => exact .taken (taken_release hTaken).2
  | done hDone => exact .done hDone

lemma placed_finish (hTaken : t.taken worker = some n)
  (hPlaced : Placed (t.finish worker n) m) : Placed t m := by
  cases hPlaced with
  | filed hFiled => exact .filed hFiled
  | taken hTaken' => exact .taken (taken_release hTaken').2
  | done hDone =>
    rcases mem_append.mp hDone with hOld | hNew
    · exact .done hOld
    · rw [mem_singleton.mp hNew]
      exact .taken hTaken

lemma once_release (hOnce : Once t) (worker : ι) : Once (t.release worker) := { hOnce with
  taken_unique := fun hLeft hRight =>
    hOnce.taken_unique (taken_release hLeft).2 (taken_release hRight).2
  filed_taken := fun hFiled hTaken => hOnce.filed_taken hFiled (taken_release hTaken).2
  taken_done := fun hTaken => hOnce.taken_done (taken_release hTaken).2 }

lemma once_finish (hOnce : Once t) (hTaken : t.taken worker = some n) :
  Once (t.finish worker n) where
  filed_unique := hOnce.filed_unique
  taken_unique := (once_release hOnce worker).taken_unique
  filed_taken := (once_release hOnce worker).filed_taken
  filed_done := by
    intro key m hFiled hDone
    rcases mem_append.mp hDone with hOld | hNew
    · exact hOnce.filed_done hFiled hOld
    · rw [mem_singleton.mp hNew] at hFiled
      exact hOnce.filed_taken hFiled hTaken
  taken_done := by
    intro worker' m hTaken' hDone
    rcases taken_release hTaken' with ⟨hOther, hOld⟩
    rcases mem_append.mp hDone with hDone | hNew
    · exact hOnce.taken_done hOld hDone
    · rw [mem_singleton.mp hNew] at hOld
      exact hOther (hOnce.taken_unique hOld hTaken)
  nodup := by
    change (t.done ++ [n]).Nodup
    rw [nodup_append]
    refine ⟨hOnce.nodup, pairwise_singleton _ n, ?_⟩
    intro a hOld b hNew hEq
    rw [hEq, mem_singleton.mp hNew] at hOld
    exact hOnce.taken_done hTaken hOld

variable [DecidableEq κ] {key : κ}

def take (t : Tickets κ ι) (key : κ) (worker : ι) : Tickets κ ι :=
  { t.withdraw key with taken := update t.taken worker (t.filed key) }

lemma taken_take {worker' : ι} (hTaken : (t.take key worker).taken worker' = some m) :
  worker' = worker ∧ t.filed key = some m ∨ worker' ≠ worker ∧ t.taken worker' = some m := by
  by_cases hWorker : worker' = worker
  · rw [hWorker] at hTaken
    simp only [take, update_self] at hTaken
    exact .inl ⟨hWorker, hTaken⟩
  · simp only [take, update_of_ne hWorker] at hTaken
    exact .inr ⟨hWorker, hTaken⟩

lemma placed_take (hPlaced : Placed (t.take key worker) m) : Placed t m := by
  cases hPlaced with
  | filed hFiled => exact .filed (filed_withdraw hFiled)
  | taken hTaken =>
    rcases taken_take hTaken with ⟨-, hOld⟩ | ⟨-, hOld⟩
    · exact .filed hOld
    · exact .taken hOld
  | done hDone => exact .done hDone

lemma once_take (hOnce : Once t) (key : κ) (worker : ι) : Once (t.take key worker) where
  filed_unique := fun hLeft hRight =>
    hOnce.filed_unique (filed_withdraw hLeft) (filed_withdraw hRight)
  taken_unique := by
    intro worker' worker'' m hLeft hRight
    rcases taken_take hLeft with ⟨hSame, hFiled⟩ | ⟨-, hOld⟩
    · rcases taken_take hRight with ⟨hSame', -⟩ | ⟨-, hOld'⟩
      · exact hSame.trans hSame'.symm
      · exact absurd hOld' (hOnce.filed_taken hFiled)
    · rcases taken_take hRight with ⟨-, hFiled⟩ | ⟨-, hOld'⟩
      · exact absurd hOld (hOnce.filed_taken hFiled)
      · exact hOnce.taken_unique hOld hOld'
  filed_taken := by
    intro key' worker' m hFiled hTaken
    have hOld := filed_withdraw hFiled
    rcases taken_take hTaken with ⟨-, hMoved⟩ | ⟨-, hTaken'⟩
    · -- what was under the key is there no longer
      have hKey := hOnce.filed_unique hOld hMoved
      rw [hKey] at hFiled
      simp [take, withdraw] at hFiled
    · exact hOnce.filed_taken hOld hTaken'
  filed_done := fun hFiled => hOnce.filed_done (filed_withdraw hFiled)
  taken_done := by
    intro worker' m hTaken
    rcases taken_take hTaken with ⟨-, hFiled⟩ | ⟨-, hOld⟩
    · exact hOnce.filed_done hFiled
    · exact hOnce.taken_done hOld
  nodup := hOnce.nodup

end Workers

end Tickets

-- Broadcasts

/-
  A notifier that keeps no permits: a broadcast reaches every ticket that was taken before it,
  whether somebody waits with the ticket already or not, and no ticket that is taken later.
-/
structure Notify where
  calls : Nat

namespace Notify

def new : Notify where
  calls := 0

def notified (n : Notify) : Nat := n.calls

def Issued (n : Notify) (ticket : Nat) : Prop := ticket ≤ n.calls

def ready (n : Notify) (ticket : Nat) : Bool := ticket < n.calls

def notifyWaiters (n : Notify) : Notify where
  calls := n.calls + 1

lemma issued_notified (n : Notify) : n.Issued n.notified := Nat.le_refl _

variable {n : Notify} {ticket : Nat}

lemma Issued.notifyWaiters (hIssued : n.Issued ticket) :
  n.notifyWaiters.Issued ticket := Nat.le_succ_of_le hIssued

lemma ready_notifyWaiters (hIssued : n.Issued ticket) : n.notifyWaiters.ready ticket :=
  decide_eq_true (Nat.lt_succ_of_le hIssued)

end Notify
