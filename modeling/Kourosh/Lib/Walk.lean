import Mathlib.Data.List.Nodup

/-
  Walking a list of entries once.

  A walk takes the first entry that is not marked as visited, and marks it.
-/

-- Entries Without Their Repetitions

namespace Walk

open List

variable {α : Type} [DecidableEq α]

lemma nodup_eraseDups : ∀ entries : List α, entries.eraseDups.Nodup
| [] => by simp
| entry :: rest => by
  have hShorter : (rest.filter fun other => !other == entry).length < rest.length + 1 :=
    Nat.lt_succ_of_le (length_filter_le _ _)
  rw [eraseDups_cons, nodup_cons]
  constructor
  · simp [mem_eraseDups]
  · exact nodup_eraseDups _
termination_by entries => entries.length

lemma find?_eraseDups (p : α → Bool) :
  ∀ entries : List α, entries.eraseDups.find? p = entries.find? p
| [] => by simp
| entry :: rest => by
  have hShorter : (rest.filter fun other => !other == entry).length < rest.length + 1 :=
    Nat.lt_succ_of_le (length_filter_le _ _)
  rw [eraseDups_cons]
  by_cases hEntry : p entry = true
  · rw [find?_cons_of_pos hEntry, find?_cons_of_pos hEntry]
  · rw [find?_cons_of_neg hEntry, find?_cons_of_neg hEntry, find?_eraseDups, find?_filter]
    -- an entry with the property is not the first one
    congr 1
    funext other
    by_cases hSame : other = entry
    · simp [hSame, hEntry]
    · simp [hSame]
termination_by entries => entries.length

-- Walks

def next (entries visited : List α) : Option α := entries.find? fun entry => !visited.contains entry

def InOrder (entries walked : List α) : Prop := walked <+: entries.eraseDups

instance (entries walked : List α) : Decidable (InOrder entries walked) := by
  unfold InOrder
  infer_instance

/-
  The visited entries hold what was walked and not what comes next in the list, or they hold the
  whole list.
-/
def Mirrors (entries walked visited : List α) : Prop :=
  ((∀ entry ∈ walked, entry ∈ visited) ∧ ∀ entry ∈ entries.eraseDups[walked.length]?,
    entry ∉ visited) ∨ ∀ entry ∈ entries, entry ∈ visited

instance (entries walked visited : List α) : Decidable (Mirrors entries walked visited) := by
  unfold Mirrors
  infer_instance

namespace InOrder

variable {entries walked visited : List α}

lemma nil : InOrder entries [] := ⟨entries.eraseDups, rfl⟩

lemma nodup (hOrder : InOrder entries walked) : walked.Nodup :=
  hOrder.sublist.nodup (nodup_eraseDups entries)

lemma next {entry : α} (hOrder : InOrder entries walked) (hMirrors : Mirrors entries walked visited)
  (hNext : Walk.next entries visited = some entry) : InOrder entries (walked ++ [entry]) := by
  have hNew : entry ∉ visited := by simpa using find?_some hNext
  rcases hMirrors with ⟨hWalked, hAhead⟩ | hAll
  · rcases hOrder with ⟨ahead, hSplit⟩
    unfold Walk.next at hNext
    rw [← find?_eraseDups, ← hSplit, find?_append, find?_eq_none.mpr (by simpa using hWalked),
      Option.none_or] at hNext
    cases ahead with
    | nil => cases hNext
    | cons first rest =>
      have hFirst : first ∉ visited := by
        apply hAhead
        rw [← hSplit]
        simp
      rw [find?_cons_of_pos (by simpa using hFirst)] at hNext
      cases hNext
      exact ⟨rest, by simpa using hSplit⟩
  · exact absurd (hAll entry (mem_of_find?_eq_some hNext)) hNew

end InOrder

end Walk
