import Kourosh.Lib.Run

/-
  Measurements of Smart Split.

  What is stored for a network is the position of a profile in the list of the mirror.

  Main declarations
    * `State.step` : what happens to the list and to the stored measurements
    * `State.Truthful` : a stored measurement is used with the masks that were measured
    * `State.Steady` : the lists that leave the measured masks where they were

  Correctness is proven by:
    * `State.measurement_stays_true`
-/

-- Profiles

namespace Kourosh.SmartSplit

open List
open Function
open Option

variable {M : Type}

structure FragmentProfile (M : Type) where
  key : Nat
  masks : M

/- The entries of a list that was read, `none` for those without masks. -/
abbrev Body (M : Type) := Option (List (Option M))

def parse (body : Body M) : Option (List (FragmentProfile M)) :=
  body.bind fun entries =>
    let out := entries.zipIdx.filterMap fun entry => entry.1.map (⟨entry.2, ·⟩)
    if out.isEmpty then none else some out

structure State (M : Type) where
  -- a key, or that no profile works
  prefs : String → Option (Option Nat)
  networkKey : String
  -- the cache or else the seed
  mirror : Body M
  lastParsed : List (FragmentProfile M)
  -- the profiles of the start that runs, none behind its end, and whether they are probed
  candidates : List (FragmentProfile M)
  probes : Bool
  -- the masks with which the stored measurement succeeded
  measured : String → Option M

inductive Event (M : Type) where
  | move (networkKey : String)
  | restart
  | refresh (body : Body M)
  | startSmartSplit
  -- the three ends of a start
  | remember (attempt : Nat)
  | recordNoProfile
  | leave
  | forgetMeasurements

namespace State

def init (mirror : Body M) (networkKey : String) : State M where
  prefs := fun _ => none
  networkKey := networkKey
  mirror := mirror
  lastParsed := []
  candidates := []
  probes := false
  measured := fun _ => none

def byKey (s : State M) (key : Nat) : Option (FragmentProfile M) :=
  s.lastParsed.find? (·.key == key)

def cachedProfile (s : State M) : Option (FragmentProfile M) :=
  (s.prefs s.networkKey).join.bind s.byKey

def startSmartSplit (s : State M) : State M :=
  match s.cachedProfile, parse s.mirror with
  | some profile, _ => { s with candidates := [profile], probes := false }
  | none, some out => { s with candidates := out, probes := true, lastParsed := out }
  | none, none => { s with candidates := [], probes := true }

def step (s : State M) : Event M → Option (State M)
| .move networkKey => some { s with networkKey := networkKey }
| .restart => some { s with lastParsed := [], candidates := [] }
| .refresh body =>
  match parse body with
  | some out => some { s with lastParsed := out, mirror := body }
  | none => some s
| .startSmartSplit =>
  -- not if it was measured that no profile works
  if s.prefs s.networkKey = some none then none else some s.startSmartSplit
| .remember attempt =>
  match s.candidates[attempt]?, s.probes with
  | some profile, true =>
    some { s with
      prefs := update s.prefs s.networkKey (some (some profile.key))
      measured := update s.measured s.networkKey (some profile.masks)
      candidates := [] }
  | _, _ => none
| .recordNoProfile =>
  if s.candidates.isEmpty then none
  else some { s with prefs := update s.prefs s.networkKey (some none), candidates := [] }
-- a cached profile that is up, a cancelled start, or no candidate at all
| .leave => some { s with candidates := [] }
| .forgetMeasurements => some { s with prefs := fun _ => none }

/- A stored measurement is used with its own masks, and without one the list is probed again. -/
def Truthful (s : State M) : Prop :=
  (∀ profile ∈ s.cachedProfile, s.measured s.networkKey = some profile.masks) ∧
    (s.cachedProfile = none → s.startSmartSplit.candidates = (parse s.mirror).getD [] ∧
      s.startSmartSplit.probes = true)

def Kept (s : State M) (out : List (FragmentProfile M)) : Prop :=
  ∀ profile ∈ out, ∀ networkKey, s.prefs networkKey = some (some profile.key) →
    s.measured networkKey = some profile.masks

def Alike (one other : List (FragmentProfile M)) : Prop :=
  ∀ a ∈ one, ∀ b ∈ other, a.key = b.key → a.masks = b.masks

/-
  A list that is parsed has the measured masks where they were, and those that are being tried.
-/
def Steady (s : State M) : Event M → Prop
| .refresh body =>
  ∀ out ∈ parse body, s.Kept out ∧ (s.probes = true → Alike s.candidates out)
| .startSmartSplit => ∀ out ∈ parse s.mirror, s.Kept out
| _ => True

structure Sound (s : State M) : Prop where
  kept : s.Kept s.lastParsed
  tried : s.probes = true → Alike s.candidates s.lastParsed
  unique : Alike s.lastParsed s.lastParsed

variable {s s' : State M} {e : Event M} {out : List (FragmentProfile M)}

lemma alike_of_parse {body : Body M} (hParse : parse body = some out) : Alike out out := by
  rcases bind_eq_some_iff.mp hParse with ⟨entries, -, hOut⟩
  have hAt : ∀ profile ∈ out, entries[profile.key]? = some (some profile.masks) := by
    intro profile hProfile
    rw [← some.inj (ite_none_left_eq_some.mp hOut).2] at hProfile
    rcases mem_filterMap.mp hProfile with ⟨⟨entry, index⟩, hEntry, hMasks⟩
    rcases map_eq_some_iff.mp hMasks with ⟨masks, rfl, rfl⟩
    exact mem_zipIdx_iff_getElem?.mp hEntry
  intro a hA b hB hKey
  have hSame := hAt a hA
  rw [hKey, hAt b hB] at hSame
  simpa using hSame.symm

lemma sound_of_nil (hNone : s.lastParsed = []) : s.Sound :=
  ⟨by simp [Kept, hNone], by simp [Alike, hNone], by simp [Alike, hNone]⟩

lemma Sound.start (hSound : s.Sound) (hSteady : ∀ out ∈ parse s.mirror, s.Kept out) :
  s.startSmartSplit.Sound := by
  unfold startSmartSplit
  cases hCached : s.cachedProfile with
  | some => exact ⟨hSound.kept, nofun, hSound.unique⟩
  | none =>
    cases hParse : parse s.mirror with
    | some out =>
      exact ⟨hSteady out hParse, fun _ => alike_of_parse hParse, alike_of_parse hParse⟩
    | none => exact ⟨hSound.kept, by simp [Alike], hSound.unique⟩

/- Storing something for the network ends the start and keeps what is stored for others. -/
lemma Sound.store (hSound : s.Sound) {stored : Option Nat} {masks : Option M}
  (hStored : ∀ other ∈ s.lastParsed, stored = some other.key → masks = some other.masks) :
  Sound { s with
    prefs := update s.prefs s.networkKey (some stored)
    measured := update s.measured s.networkKey masks
    candidates := [] } := by
  refine ⟨fun other hOther networkKey hPrefs => ?_, by simp [Alike], hSound.unique⟩
  by_cases hHere : networkKey = s.networkKey
  · subst hHere
    simp only [update_self, some.injEq] at hPrefs ⊢
    exact hStored other hOther hPrefs
  · simp only [update_of_ne hHere] at hPrefs ⊢
    exact hSound.kept other hOther networkKey hPrefs

lemma sound_step (hSound : s.Sound) (hSteady : s.Steady e) (hStep : s.step e = some s') :
  s'.Sound := by
  cases e with
  | move =>
    cases hStep
    exact { hSound with }
  | restart =>
    cases hStep
    exact sound_of_nil rfl
  | refresh body =>
    cases hParse : parse body with
    | some out =>
      simp only [step, hParse, some.injEq] at hStep
      subst hStep
      exact ⟨(hSteady out hParse).1, (hSteady out hParse).2, alike_of_parse hParse⟩
    | none =>
      simp only [step, hParse, some.injEq] at hStep
      exact hStep ▸ hSound
  | startSmartSplit =>
    rw [← some.inj (ite_none_left_eq_some.mp hStep).2]
    exact hSound.start hSteady
  | remember attempt =>
    simp only [step] at hStep
    split at hStep
    next profile hAt hProbes =>
      cases hStep
      refine hSound.store fun other hOther hKey => congrArg some ?_
      exact hSound.tried hProbes profile (mem_of_getElem? hAt) other hOther (some.inj hKey)
    next => cases hStep
  | recordNoProfile =>
    rw [← some.inj (ite_none_left_eq_some.mp hStep).2]
    have hKept := @Sound.store M s hSound none (s.measured s.networkKey) nofun
    rwa [update_eq_self] at hKept
  | leave =>
    cases hStep
    exact ⟨hSound.kept, by simp [Alike], hSound.unique⟩
  | forgetMeasurements =>
    cases hStep
    exact ⟨by simp [Kept], hSound.tried, hSound.unique⟩

/-
  As long as every list leaves the measured masks where they were, a stored measurement stays true
  over refreshes and restarts.
-/
theorem measurement_stays_true
    {mirror : Body M}
    {networkKey : String}
    (hRun : Run.Reaches step Steady (init mirror networkKey) s) :
    s.Truthful := by
  have hSound : s.Sound := hRun.invariant (sound_of_nil rfl) sound_step
  constructor
  · intro profile hCached
    rcases bind_eq_some_iff.mp hCached with ⟨key, hKey, hFind⟩
    have hSame := find?_some hFind
    rw [← beq_iff_eq.mp hSame] at hKey
    exact hSound.kept profile (mem_of_find?_eq_some hFind) _ (join_eq_some_iff.mp hKey)
  · intro hNone
    rw [startSmartSplit, hNone]
    cases hParse : parse s.mirror with
    | none | some => exact ⟨rfl, rfl⟩

/-
  The first profile is measured, the second is retuned and the process started again: the first
  is used with its masks.
-/
theorem first_profile_stays_true :
    ∃ s : State Nat, s.cachedProfile.map FragmentProfile.masks = some 7 ∧ s.Truthful := by
  have hMeasured : Run.Reaches (step (M := Nat)) Steady (init (some [some 7, some 9]) "wifi") _ :=
    .next (e := .remember 0) (.next (e := .startSmartSplit) .start (fun _ _ => nofun) rfl)
      trivial rfl
  -- neither the refresh nor the new start moves masks 7
  have hKept : ∀ (s : State Nat) (out : List (FragmentProfile Nat)),
      out = [⟨0, 7⟩, ⟨1, 10⟩] → s.prefs = update (fun _ => none) "wifi" (some (some 0)) →
      s.measured = update (fun _ => none) "wifi" (some 7) → s.Kept out := by
    rintro s _ rfl hPrefs hMeasured profile hProfile networkKey hKey
    rw [hPrefs] at hKey
    rw [hMeasured]
    by_cases hHere : networkKey = "wifi"
    · subst hHere
      simp only [update_self, some.injEq] at hKey ⊢
      rcases mem_cons.mp hProfile with rfl | hSecond
      · rfl
      · rw [mem_singleton.mp hSecond] at hKey
        cases hKey
    · rw [update_of_ne hHere] at hKey
      cases hKey
  have hRefreshed := hMeasured.next (e := Event.refresh (some [some 7, some 10]))
    (by
      rintro _ ⟨⟩
      exact ⟨hKept _ _ rfl rfl rfl, fun _ => nofun⟩) rfl
  have hRestarted := hRefreshed.next (e := Event.restart) trivial rfl
  have hStarted := hRestarted.next (e := Event.startSmartSplit)
    (by
      rintro _ ⟨⟩
      exact hKept _ _ rfl rfl rfl) rfl
  exact ⟨_, by decide, measurement_stays_true hStarted⟩

/- The list is replaced by one that begins with the second profile. -/
theorem other_masks_are_used :
    ¬ ∀ s : State Nat,
      Run.Reaches step Run.Always (init (some [some 7, some 9]) "wifi") s → s.Truthful := by
  intro hAll
  have hTruthful := hAll _ (.next (e := .refresh (some [some 9])) (.next (e := .remember 0)
    (.next (e := .startSmartSplit) .start trivial rfl) trivial rfl) trivial rfl)
  cases hTruthful.1 ⟨0, 9⟩ rfl

end State

end Kourosh.SmartSplit
