import Mathlib.Data.List.Basic

/-
  A map whose entries expire.

  Entries are looked up and removed by key, and a map that got too large is emptied before the
  next entry is put in.
-/

-- Entries

namespace Expiring

open List

variable {κ ν : Type}

structure Entry (κ ν : Type) where
  key : κ
  value : ν
  expires : Nat

variable [DecidableEq κ]

def find (entries : List (Entry κ ν)) (key : κ) : Option (Entry κ ν) :=
  entries.find? fun e => e.key = key

def remove (entries : List (Entry κ ν)) (key : κ) : List (Entry κ ν) :=
  entries.filter fun e => e.key ≠ key

def put (limit : Nat) (entries : List (Entry κ ν)) (entry : Entry κ ν) : List (Entry κ ν) :=
  entry :: remove (if limit < entries.length then [] else entries) entry.key

-- What Holds Of Entries

def Backed (P : Entry κ ν → Prop) (entries : List (Entry κ ν)) : Prop := ∀ e ∈ entries, P e

namespace Backed

variable {P Q : Entry κ ν → Prop} {entries : List (Entry κ ν)} {e : Entry κ ν}
variable {key : κ}

omit [DecidableEq κ] in
lemma mono (hBacked : Backed P entries) (hWeaker : ∀ e, P e → Q e) :
  Backed Q entries := fun e hMem => hWeaker e (hBacked e hMem)

variable (hBacked : Backed P entries)

include hBacked

lemma find (hFind : Expiring.find entries key = some e) : P e ∧ e.key = key := by
  refine ⟨hBacked e (mem_of_find?_eq_some hFind), ?_⟩
  have hKey := find?_some hFind
  exact of_decide_eq_true hKey

lemma remove (key : κ) : Backed P (Expiring.remove entries key) :=
  fun e hMem => hBacked e (mem_filter.mp hMem).1

lemma put (hEntry : P e) (limit : Nat) : Backed P (Expiring.put limit entries e) := by
  intro other hMem
  rcases mem_cons.mp hMem with rfl | hOld
  · exact hEntry
  · refine Backed.remove ?_ e.key other hOld
    split
    next => exact fun _ hNone => absurd hNone not_mem_nil
    next => exact hBacked

end Backed

end Expiring
