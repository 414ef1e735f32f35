import Kourosh.Profiles.Store

/-
  The migration of older settings files.

  Both passes go by the shape of the stored name, so no name that was made global is ever found
  under a profile.

  Main declarations
    * `migrateIfNeeded` : the two passes over a file
    * `Migrated` : what the migration promises
    * `Orderly` : the files it keeps the promise for

  Correctness is proven by:
    * `migration_is_complete_iff`
-/

-- The Two Passes

namespace Kourosh.Profiles

open List AList

def relocate (target : Key → Key) (prefs : Prefs) (entry : Entry) : Prefs :=
  (prefs.erase entry.1).insert (target entry.1) entry.2

def isBare (entry : Entry) : Bool := isProfiled entry.1 && (stripProfile entry.1).isNone

def isMisplaced (prefs : Prefs) (entry : Entry) : Bool :=
  !isProfiled entry.1 && (stripProfile entry.1).any (· ∉ prefs)

/- Both passes read the file as it was, and the edits are committed together. -/
def migrateIfNeeded (prefs : Prefs) (snapshot : List Entry) : Option (Nat × Prefs) :=
  (active prefs).map fun profile =>
    let first := snapshot.filter isBare
    let second := snapshot.filter (isMisplaced prefs)
    (first.length + second.length,
      second.foldl (relocate bare) (first.foldl (relocate (profiledKey profile)) prefs))

variable {profile : Fin count} {prefs : Prefs} {moved snapshot : List Entry} {key : Key}

lemma stripProfile_of_global (hKey : isProfiled key = false) : stripProfile key = none := by
  simp only [isProfiled, Bool.and_eq_false_iff, decide_eq_false_iff_not, not_not,
    Bool.not_eq_false', any_eq_true] at hKey
  rcases hKey with hMem | ⟨front, hFront, hKey⟩
  · exact stripProfile_of_mem_keysNotProfiled hMem
  · rw [prefixesNotProfiled, mem_singleton] at hFront
    rw [hFront, isPrefixOf_iff_prefix] at hKey
    rcases hKey with ⟨rest, rfl⟩
    rfl

lemma not_isMisplaced (prefs : Prefs) (entry : Entry) : isMisplaced prefs entry = false := by
  cases hKey : isProfiled entry.1 with
  | true => simp [isMisplaced, hKey]
  | false => simp [isMisplaced, stripProfile_of_global hKey]

lemma ne_profiledKey (hBare : stripProfile key = none) (name : Key) :
  key ≠ profiledKey profile name := by
  rintro rfl
  rw [stripProfile_profiledKey] at hBare
  cases hBare

lemma lookup_foldl_of_ne (hNe : ∀ entry ∈ moved, key ≠ entry.1 ∧ key ≠ profiledKey profile entry.1) :
  (moved.foldl (relocate (profiledKey profile)) prefs).lookup key = prefs.lookup key := by
  induction moved generalizing prefs with
  | nil => rfl
  | cons entry rest ih =>
    rw [forall_mem_cons] at hNe
    rw [foldl_cons, ih hNe.2, relocate, lookup_insert_ne hNe.1.2,
      lookup_erase_ne hNe.1.1]

lemma lookup_foldl_of_mem (hNodup : (moved.map Sigma.fst).Nodup)
  (hBare : ∀ entry ∈ moved, stripProfile entry.1 = none) {entry : Entry} (hEntry : entry ∈ moved) :
  let result := moved.foldl (relocate (profiledKey profile)) prefs
  result.lookup entry.1 = none ∧ result.lookup (profiledKey profile entry.1) = some entry.2 := by
  induction moved generalizing prefs with
  | nil => cases hEntry
  | cons first rest ih =>
    rw [map_cons, nodup_cons] at hNodup
    rw [forall_mem_cons] at hBare
    rcases mem_cons.mp hEntry with rfl | hRest
    · have hOther : ∀ other ∈ rest, entry.1 ≠ other.1 :=
        fun other hOther hSame => hNodup.1 (hSame ▸ mem_map_of_mem hOther)
      simp only [foldl_cons]
      rw [lookup_foldl_of_ne fun other hMem => ⟨hOther other hMem, ne_profiledKey hBare.1 _⟩,
        lookup_foldl_of_ne fun other hMem => ⟨(ne_profiledKey (hBare.2 other hMem) _).symm,
          fun hSame => hOther other hMem (profiledKey_injective hSame).2⟩,
        relocate, lookup_insert_ne (ne_profiledKey hBare.1 _), lookup_erase,
        lookup_insert]
      exact ⟨rfl, rfl⟩
    · exact ih hNodup.2 hBare.2 hRest

-- What Is Promised

/- A key that belongs to a profile and has no profile in front. -/
def Moves (key : Key) : Prop :=
  isProfiled key = true ∧ ∀ profile name, key ≠ profiledKey profile name

structure Migrated (profile : Fin count) (prefs prefs' : Prefs) : Prop where
  bare : ∀ key value, Moves key → prefs.lookup key = some value →
    ProfiledPrefs.get prefs' key = some (some value)
  globals : ∀ key value, isProfiled key = false →
    prefs.lookup (profiledKey profile key) = some value → prefs.lookup key = none →
    prefs'.lookup key = some value
  others : ∀ key, (∀ name ∈ prefs, Moves name → key ≠ name ∧ key ≠ profiledKey profile name) →
    (∀ name, isProfiled name = false → profiledKey profile name ∈ prefs →
      key ≠ name ∧ key ≠ profiledKey profile name) → prefs'.lookup key = prefs.lookup key
  again : ∀ snapshot, snapshot ~ prefs'.entries → migrateIfNeeded prefs' snapshot = some (0, prefs')

/-
  An ordinary name that looks like one with a profile is there under the profile as well, and no
  global name is hidden behind one.
-/
structure Orderly (profile : Fin count) (prefs : Prefs) : Prop where
  shapes : ∀ key value, Moves key → prefs.lookup key = some value →
    stripProfile key = none ∨ prefs.lookup (profiledKey profile key) = some value
  globals : ∀ key, isProfiled key = false → profiledKey profile key ∈ prefs → key ∈ prefs

lemma mem_bare_iff (hSnapshot : snapshot ~ prefs.entries) {entry : Entry} :
  entry ∈ snapshot.filter isBare ↔ prefs.lookup entry.1 = some entry.2 ∧
    isProfiled entry.1 ∧ stripProfile entry.1 = none := by
  rw [mem_filter, hSnapshot.mem_iff, isBare, Bool.and_eq_true, Option.isNone_iff_eq_none]
  exact and_congr_left fun _ => mem_lookup_iff.symm

lemma migrateIfNeeded_eq (hActive : active prefs = some profile) (snapshot : List Entry) :
  migrateIfNeeded prefs snapshot = some ((snapshot.filter isBare).length,
    (snapshot.filter isBare).foldl (relocate (profiledKey profile)) prefs) := by
  have hNone : snapshot.filter (isMisplaced prefs) = [] :=
    filter_eq_nil_iff.mpr fun entry _ => by simp [not_isMisplaced]
  simp [migrateIfNeeded, hActive, hNone]

section Result

variable (hActive : active prefs = some profile) (hSnapshot : snapshot ~ prefs.entries)

/- The file that the first pass leaves. -/
def migrated (profile : Fin count) (prefs : Prefs) (snapshot : List Entry) : Prefs :=
  (snapshot.filter isBare).foldl (relocate (profiledKey profile)) prefs

lemma lookup_migrated_of_ne
  (hNe : ∀ entry ∈ snapshot.filter isBare, key ≠ entry.1 ∧ key ≠ profiledKey profile entry.1) :
  (migrated profile prefs snapshot).lookup key = prefs.lookup key := lookup_foldl_of_ne hNe

include hSnapshot

lemma lookup_migrated {entry : Entry} (hEntry : entry ∈ snapshot.filter isBare) :
  (migrated profile prefs snapshot).lookup entry.1 = none ∧
    (migrated profile prefs snapshot).lookup (profiledKey profile entry.1) = some entry.2 := by
  have hNodup : ((snapshot.filter isBare).map Sigma.fst).Nodup :=
    (filter_sublist.map _).nodup ((hSnapshot.map _).nodup_iff.mpr prefs.nodupKeys)
  exact lookup_foldl_of_mem hNodup (fun _ hEntry => ((mem_bare_iff hSnapshot).mp hEntry).2.2) hEntry

/- A global name is no target of the first pass. -/
lemma lookup_migrated_global (hKey : isProfiled key = false) :
  (migrated profile prefs snapshot).lookup key = prefs.lookup key := by
  refine lookup_migrated_of_ne fun entry hEntry => ?_
  exact ⟨(ne_of_isProfiled ((mem_bare_iff hSnapshot).mp hEntry).2.1 hKey).symm,
    (ne_of_isProfiled (isProfiled_profiledKey _ _) hKey).symm⟩

include hActive

lemma active_migrated : active (migrated profile prefs snapshot) = some profile := by
  rw [active, lookup_migrated_global hSnapshot isProfiled_activeProfile, ← active, hActive]

/- A bare name is read back if it was moved, or if its value is under the profile anyway. -/
lemma get_migrated_iff {value : Value} (hKey : Moves key) (hValue : prefs.lookup key = some value) :
  ProfiledPrefs.get (migrated profile prefs snapshot) key = some (some value) ↔
    stripProfile key = none ∨ prefs.lookup (profiledKey profile key) = some value := by
  rw [ProfiledPrefs.get, physicalKey, if_pos hKey.1, active_migrated hActive hSnapshot,
    Option.map_some, Option.map_some, Option.some_inj]
  by_cases hStrip : stripProfile key = none
  · have hEntry : ⟨key, value⟩ ∈ snapshot.filter isBare :=
      (mem_bare_iff hSnapshot).mpr ⟨hValue, hKey.1, hStrip⟩
    exact iff_of_true (lookup_migrated hSnapshot hEntry).2 (.inl hStrip)
  · rw [lookup_migrated_of_ne, or_iff_right hStrip]
    intro entry hEntry
    have hBare := ((mem_bare_iff hSnapshot).mp hEntry).2.2
    refine ⟨(ne_profiledKey hBare _).symm, fun hSame => hStrip ?_⟩
    rw [(profiledKey_injective hSame).2]
    exact hBare

/- A bare name that is left would have been moved. -/
lemma migrated_again {again : List Entry}
  (hAgain : again ~ (migrated profile prefs snapshot).entries) :
  migrateIfNeeded (migrated profile prefs snapshot) again =
    some (0, migrated profile prefs snapshot) := by
  rw [migrateIfNeeded_eq (active_migrated hActive hSnapshot), filter_eq_nil_iff.mpr]
  · rfl
  intro entry hEntry hLeft
  have hLeft := (mem_bare_iff hAgain).mp (mem_filter.mpr ⟨hEntry, hLeft⟩)
  have hNew : ∀ other ∈ snapshot.filter isBare, entry.1 ≠ other.1 := by
    intro other hOther hKey
    rw [hKey, (lookup_migrated hSnapshot hOther).1] at hLeft
    cases hLeft.1
  have hOld : (migrated profile prefs snapshot).lookup entry.1 = prefs.lookup entry.1 :=
    lookup_migrated_of_ne fun other hOther =>
      ⟨hNew other hOther, ne_profiledKey hLeft.2.2 _⟩
  rw [hOld] at hLeft
  exact hNew entry ((mem_bare_iff hSnapshot).mpr hLeft) rfl

/- The migration keeps its promise if and only if the file is orderly. -/
theorem migration_is_complete_iff :
    (∃ changed prefs', migrateIfNeeded prefs snapshot = some (changed, prefs') ∧
      Migrated profile prefs prefs') ↔
    Orderly profile prefs := by
  have hResult : (∃ changed prefs', migrateIfNeeded prefs snapshot = some (changed, prefs') ∧
      Migrated profile prefs prefs') ↔
      Migrated profile prefs (migrated profile prefs snapshot) := by
    rw [migrateIfNeeded_eq hActive]
    constructor
    · rintro ⟨changed, prefs', hSame, hMigrated⟩
      cases hSame
      exact hMigrated
    · exact fun hMigrated => ⟨_, _, rfl, hMigrated⟩
  rw [hResult]
  constructor
  · intro hMigrated
    constructor
    · intro key value hKey hValue
      exact (get_migrated_iff hActive hSnapshot hKey hValue).mp
        (hMigrated.bare key value hKey hValue)
    · intro key hKey hMem
      by_contra hFree
      rcases Option.isSome_iff_exists.mp (lookup_isSome.mpr hMem) with ⟨value, hValue⟩
      have hNone := lookup_eq_none.mpr hFree
      have hFound := hMigrated.globals key value hKey hValue hNone
      rw [lookup_migrated_global hSnapshot hKey, hNone] at hFound
      cases hFound
  · intro hOrderly
    constructor
    · intro key value hKey hValue
      exact (get_migrated_iff hActive hSnapshot hKey hValue).mpr
        (hOrderly.shapes key value hKey hValue)
    · intro key value hKey hValue hFree
      have hMem := hOrderly.globals key hKey (lookup_isSome.mp (by simp [hValue]))
      exact absurd hMem (lookup_eq_none.mp hFree)
    · intro key hKeys _
      refine lookup_migrated_of_ne fun entry hEntry => ?_
      rcases (mem_bare_iff hSnapshot).mp hEntry with ⟨hValue, hKey, hStrip⟩
      exact hKeys entry.1 (lookup_isSome.mp (by simp [hValue]))
        ⟨hKey, fun _ _ => ne_profiledKey hStrip _⟩
    · exact fun again hAgain => migrated_again hActive hSnapshot hAgain

end Result

/- A setting from before the profiles, and a language under both of its names. -/
def oldPrefs : Prefs :=
  ((∅ : Prefs).insert "app_language".toList (.string "fa".toList)
    |>.insert "p0_app_language".toList (.string "en".toList)
    |>.insert "kill_switch".toList (.boolean true))

lemma mem_oldPrefs : key ∈ oldPrefs ↔ key = "kill_switch".toList ∨
  key = profiledKey 0 "app_language".toList ∨ key = "app_language".toList := by
  have hKey : profiledKey 0 "app_language".toList = "p0_app_language".toList := rfl
  rw [hKey, oldPrefs, AList.mem_insert, AList.mem_insert, AList.mem_insert]
  simp only [AList.notMem_empty, or_false]

theorem old_settings_are_migrated :
    ∃ changed prefs', migrateIfNeeded oldPrefs oldPrefs.entries = some (changed, prefs') ∧
      Migrated 0 oldPrefs prefs' := by
  refine (migration_is_complete_iff rfl (.refl _)).mpr ⟨?_, ?_⟩
  · intro key value hKey hValue
    have hMem : key ∈ oldPrefs := lookup_isSome.mp (by simp [hValue])
    rcases mem_oldPrefs.mp hMem with rfl | rfl | rfl
    · exact .inl rfl
    · exact absurd rfl (hKey.2 0 _)
    · exact absurd hKey.1 (by decide +kernel)
  · intro key hGlobal hMem
    rcases mem_oldPrefs.mp hMem with hKey | hKey | hKey
    · rw [profiledKey_eq] at hKey
      cases hKey
    · rw [(profiledKey_injective hKey).2]
      exact mem_oldPrefs.mpr (.inr (.inr rfl))
    · rw [profiledKey_eq] at hKey
      cases hKey

/- The language stays where an earlier build has put it. -/
theorem language_stays_hidden : ∃ prefs snapshot, active prefs = some 0 ∧
  snapshot ~ prefs.entries ∧ ∀ changed prefs', migrateIfNeeded prefs snapshot =
    some (changed, prefs') → ¬ Migrated 0 prefs prefs' := by
  let prefs : Prefs := .singleton (profiledKey 0 "app_language".toList) (.string "fa".toList)
  refine ⟨prefs, prefs.entries, rfl, .refl _, ?_⟩
  intro changed prefs' hMigrate hMigrated
  have hHidden := hMigrated.globals "app_language".toList (.string "fa".toList) (by decide +kernel)
    rfl rfl
  have hSame : migrateIfNeeded prefs prefs.entries = some (0, prefs) := rfl
  rw [hSame] at hMigrate
  cases hMigrate
  cases hHidden

end Kourosh.Profiles
