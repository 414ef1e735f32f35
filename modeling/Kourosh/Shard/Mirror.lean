import Kourosh.Lib.Jvm
import Kourosh.Shard.Measurements

/-
  The file with the mirror's list.

  A file that exists is read instead of the seed, whatever is in it.

  Correctness is proven by:
    * `refresh_keeps_profiles`
-/

-- Refreshes

namespace Kourosh.SmartSplit.Mirror

open Option

/- What `JSONObject` reads in a text, nothing if it throws. -/
variable {M : Type} (json : List Char → Body M)

def parse (body : Option (List Char)) : Option (List (FragmentProfile M)) :=
  body.bind fun text => if text.all Jvm.isWhitespace then none else SmartSplit.parse (json text)

def profiles (cache seed : Option (List Char)) : List (FragmentProfile M) :=
  (parse json (cache.or seed)).getD []

inductive Refresh where
  -- a `304`, an error, or the app is started again
  | unchanged
  -- the body of the answer, and what is in the file in the end: less if the process is killed
  | answered (body written : List Char)

def refreshBlocking (cache : Option (List Char)) : Refresh → Option (Option (List Char))
| .unchanged => some cache
| .answered body written =>
  if (parse json (some body)).isNone then some cache else some (some written)

/- What is in the file is the body, or has a profile in it. -/
def Usable (_ : Option (List Char)) : Refresh → Prop
| .unchanged => True
| .answered body written => written = body ∨ (parse json (some written)).isSome

variable {json} {cache seed : Option (List Char)}

lemma profiles_ne_nil (hParse : (parse json (cache.or seed)).isSome) :
  profiles json cache seed ≠ [] := by
  rcases isSome_iff_exists.mp hParse with ⟨out, hOut⟩
  rw [profiles, hOut]
  rintro rfl
  rcases bind_eq_some_iff.mp hOut with ⟨text, -, hText⟩
  rcases bind_eq_some_iff.mp (ite_none_left_eq_some.mp hText).2 with ⟨entries, -, hSome⟩
  rcases ite_none_left_eq_some.mp hSome with ⟨hFull, hNil⟩
  exact hFull (List.isEmpty_iff.mpr (some.inj hNil))

/- If no cut file is left behind, there is always a profile to try. -/
theorem refresh_keeps_profiles
    (hSeed : (parse json seed).isSome)
    (hRun : Run.Reaches (refreshBlocking json) (Usable json) none cache) :
    profiles json cache seed ≠ [] := by
  apply profiles_ne_nil
  refine hRun.invariant (I := fun cache => (parse json (cache.or seed)).isSome) hSeed ?_
  intro cache cache' event hCache hUsable hStep
  cases event with
  | unchanged => exact some.inj hStep ▸ hCache
  | answered body written =>
    simp only [refreshBlocking] at hStep
    split at hStep
    next => exact some.inj hStep ▸ hCache
    next hParse =>
      cases hStep
      rcases hUsable with rfl | hWritten
      · simpa [isSome_iff_ne_none] using hParse
      · exact hWritten

def twoLists (text : List Char) : Option (List (Option Nat)) :=
  if text = ['a'] then some [some 7] else if text = ['b'] then some [none, some 9] else none

/- The list is replaced by another one, and a text that is none is not kept. -/
theorem whole_list_is_used : profiles twoLists (some ['a']) (some ['b']) ≠ [] :=
  refresh_keeps_profiles rfl (.next (e := .answered ['x'] ['x'])
    (.next (e := .answered ['a'] ['a']) .start (.inl rfl) rfl) (.inl rfl) rfl)

/- A file that is being written has a prefix of the body in it. -/
def Cut (_ : Option (List Char)) : Refresh → Prop
| .unchanged => True
| .answered body written => written <+: body

/- The process is killed before the first byte of a second list is written. -/
theorem empty_file_hides_seed :
    ¬ ∀ cache,
      Run.Reaches (refreshBlocking twoLists) Cut none cache →
      profiles twoLists cache (some ['b']) ≠ [] :=
  fun hAll => hAll _ (.next (e := .answered ['a'] [])
    (.next (e := .answered ['b'] ['b']) .start List.prefix_rfl rfl) List.nil_prefix rfl) rfl

end Kourosh.SmartSplit.Mirror
