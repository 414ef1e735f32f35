import Mathlib.Data.List.Basic

/-
  Holders of numbered slots.

  A holder of type `κ` may hold the number of a slot, and a slot may be in use by an object of
  some kind.
-/

-- Slots And Holders

structure Slots (κ τ : Type) where
  handle : κ → Option Nat
  kind : Nat → Option τ

namespace Slots

open Function

variable {κ τ : Type} [DecidableEq κ]

def put (t : Slots κ τ) (kindOf : κ → τ) (key : κ) (slot : Nat) : Slots κ τ where
  handle := update t.handle key (some slot)
  kind := update t.kind slot (some (kindOf key))

def remove (t : Slots κ τ) (key : κ) (slot : Nat) : Slots κ τ where
  handle := update t.handle key none
  kind := update t.kind slot none

structure WellFormed (kindOf : κ → τ) (t : Slots κ τ) : Prop where
  live : ∀ {key slot}, t.handle key = some slot → t.kind slot = some (kindOf key)
  distinct : ∀ {key key' slot}, t.handle key = some slot → t.handle key' = some slot → key = key'

namespace WellFormed

variable {kindOf : κ → τ} {t : Slots κ τ} {key : κ} {slot : Nat}

attribute [local simp] Slots.put Slots.remove

lemma handle_of_put (hHandle : (t.put kindOf key slot).handle key' = some slot') :
  key' = key ∧ slot' = slot ∨ key' ≠ key ∧ t.handle key' = some slot' := by
  by_cases hKey : key' = key
  · subst hKey
    exact .inl ⟨rfl, by simpa [eq_comm] using hHandle⟩
  · exact .inr ⟨hKey, by simpa [update_of_ne hKey] using hHandle⟩

lemma handle_of_remove (hHandle : (t.remove key slot).handle key' = some slot') :
  key' ≠ key ∧ t.handle key' = some slot' := by
  have hKey : key' ≠ key := by
    rintro rfl
    simp at hHandle
  exact ⟨hKey, by simpa [update_of_ne hKey] using hHandle⟩

variable (hWell : WellFormed kindOf t)

include hWell

lemma put (hOnly : ∀ key', t.handle key' = some slot → key' = key) :
  WellFormed kindOf (t.put kindOf key slot) where
  live := by
    intro key' slot' hHandle
    rcases handle_of_put hHandle with ⟨rfl, rfl⟩ | ⟨hKey, hOld⟩
    · simp
    · have hSlot : slot' ≠ slot := by
        rintro rfl
        exact hKey (hOnly key' hOld)
      simpa [update_of_ne hSlot] using hWell.live hOld
  distinct := by
    intro key₁ key₂ slot' h₁ h₂
    rcases handle_of_put h₁ with ⟨rfl, rfl⟩ | ⟨_, hOld₁⟩
    · rcases handle_of_put h₂ with ⟨rfl, _⟩ | ⟨_, hOld₂⟩
      · rfl
      · exact (hOnly key₂ hOld₂).symm
    · rcases handle_of_put h₂ with ⟨rfl, rfl⟩ | ⟨_, hOld₂⟩
      · exact hOnly key₁ hOld₁
      · exact hWell.distinct hOld₁ hOld₂

lemma put_free (hFree : t.kind slot = none) : WellFormed kindOf (t.put kindOf key slot) := by
  apply hWell.put
  intro key' hHandle
  rw [hWell.live hHandle] at hFree
  cases hFree

variable (hHandle : t.handle key = some slot)

include hHandle

lemma put_same : WellFormed kindOf (t.put kindOf key slot) := by
  apply hWell.put
  intro key' hHandle'
  exact hWell.distinct hHandle' hHandle

lemma remove : WellFormed kindOf (t.remove key slot) where
  live := by
    intro key' slot' hHandle'
    rcases handle_of_remove hHandle' with ⟨hKey, hOld⟩
    have hSlot : slot' ≠ slot := by
      rintro rfl
      exact hKey (hWell.distinct hOld hHandle)
    simpa [update_of_ne hSlot] using hWell.live hOld
  distinct := by
    intro key₁ key₂ slot' h₁ h₂
    exact hWell.distinct (handle_of_remove h₁).2 (handle_of_remove h₂).2

end WellFormed

end Slots
