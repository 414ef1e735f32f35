import Kourosh.Lib.Run
import Kourosh.Profiles.Store
import Mathlib.Data.Finset.Max

/-
  Independence of the profiles.

  What the profiles are for is a ledger: four maps, one for each profile, and one map of global
  keys.

  Correctness is proven by:
    * `independent_iff_clean`
-/

-- The Ledger

namespace Kourosh.Profiles

open List AList

def Leaves : Option (Fin count) → Int → Prop
| none, _ => False
| some profile, index => 0 ≤ index ∧ index < count ∧ (profile : Int) ≠ index

instance Leaves.decidable :
  ∀ (active : Option (Fin count)) (index : Int), Decidable (Leaves active index)
| none, _ => inferInstanceAs (Decidable False)
| some profile, index =>
  inferInstanceAs (Decidable (0 ≤ index ∧ index < count ∧ (profile : Int) ≠ index))

structure Ledger where
  profiles : Fin count → Key → Option Value
  globals : Key → Option Value

namespace Ledger

def empty : Ledger where
  profiles := fun _ _ => none
  globals := fun _ => none

def active (ledger : Ledger) : Option (Fin count) := profileOf (ledger.globals activeProfile)

def read (ledger : Ledger) (key : Key) : Option (Option Value) :=
  if isProfiled key then ledger.active.map fun profile => ledger.profiles profile key
  else some (ledger.globals key)

def setProfile (ledger : Ledger) (profile : Fin count) (key : Key)
  (value : Option Value) : Ledger :=
  { ledger with
    profiles := fun other key' =>
      if other = profile ∧ key' = key then value
      else ledger.profiles other key' }

def setGlobal (ledger : Ledger) (key : Key) (value : Option Value) : Ledger :=
  { ledger with globals := Function.update ledger.globals key value }

def write (ledger : Ledger) (key : Key) (value : Option Value) : Ledger :=
  if isProfiled key then
    match ledger.active with
    | none => ledger
    | some profile => ledger.setProfile profile key value
  else ledger.setGlobal key value

def switch (ledger : Ledger) (index : Int) : Ledger :=
  if Leaves ledger.active index then ledger.setGlobal activeProfile (some (.int index))
  else ledger

end Ledger

-- Runs

inductive Op where
  | put (key : Key) (value : Value)
  | remove (key : Key)
  | switch (index : Int) (snapshot : List Entry)

structure System where
  prefs : Prefs
  ledger : Ledger

def install : System where
  prefs := ∅
  ledger := .empty

def step (s : System) : Op → Option System
| .put key value =>
  (ProfiledPrefs.put s.prefs key value).map fun prefs => ⟨prefs, s.ledger.write key (some value)⟩
| .remove key =>
  (ProfiledPrefs.remove s.prefs key).map fun prefs => ⟨prefs, s.ledger.write key none⟩
| .switch index snapshot =>
  if snapshot.Perm s.prefs.entries then
    (switch s.prefs index snapshot).map fun result => ⟨result.2, s.ledger.switch index⟩
  else none

/-
  Every key reads as the ledger has it, and the file holds the values of each profile, of those
  that are not active too.
-/
def Independent (s : System) : Prop :=
  (∀ key, ProfiledPrefs.get s.prefs key = s.ledger.read key) ∧ ∀ profile key,
    isProfiled key = true → s.prefs.lookup (profiledKey profile key) = s.ledger.profiles profile key

def Clean (s : System) : Op → Prop
| .switch index snapshot =>
  snapshot.Perm s.prefs.entries →
  Leaves (active s.prefs) index →
  ∀ key ∈ s.prefs, isProfiled key = false
| _ => True

-- The File Refines The Ledger

structure Refines (s : System) : Prop where
  globals : ∀ {key : Key}, isProfiled key = false → s.prefs.lookup key = s.ledger.globals key
  profiles : ∀ (profile : Fin count) {key : Key}, isProfiled key = true →
    s.prefs.lookup (profiledKey profile key) = s.ledger.profiles profile key
  marked : ∀ {key : Key}, key ∈ s.prefs →
    isProfiled key = true → ∃ profile name, isProfiled name = true ∧ key = profiledKey profile name

namespace Refines

variable {s : System}

lemma active_eq (hRefines : Refines s) : active s.prefs = s.ledger.active := by
  rw [active, Ledger.active, hRefines.globals isProfiled_activeProfile]

lemma independent (hRefines : Refines s) : Independent s := by
  refine ⟨?_, fun profile _ hKey => hRefines.profiles profile hKey⟩
  intro key
  rw [ProfiledPrefs.get, physicalKey, Ledger.read, hRefines.active_eq]
  cases hKey : isProfiled key with
  | false => simp [hRefines.globals hKey]
  | true =>
    cases s.ledger.active with
    | none => rfl
    | some profile => simp [hRefines.profiles profile hKey]

end Refines

lemma refines_install : Refines install where
  globals := fun _ => rfl
  profiles := fun _ _ _ => rfl
  marked := by
    intro key hMem
    exact absurd hMem (notMem_empty key)

variable {s s' : System} {key : Key} {value : Option Value} {prefs : Prefs}
variable {snapshot : List Entry} {index : Int}

lemma refines_setProfile (hRefines : Refines s) {profile : Fin count}
  (hKey : isProfiled key) (hSelf : prefs.lookup (profiledKey profile key) = value)
  (hOther : ∀ other, other ≠ profiledKey profile key → prefs.lookup other =
  s.prefs.lookup other) : Refines ⟨prefs, s.ledger.setProfile profile key value⟩ where
  globals := by
    intro other hOtherKey
    have hNe : other ≠ profiledKey profile key :=
      (ne_of_isProfiled (isProfiled_profiledKey _ _) hOtherKey).symm
    exact (hOther other hNe).trans (hRefines.globals hOtherKey)
  profiles := by
    intro other key' hKey'
    by_cases hSame : other = profile ∧ key' = key
    · rcases hSame with ⟨rfl, rfl⟩
      simpa [Ledger.setProfile] using hSelf
    · have hNe : profiledKey other key' ≠ profiledKey profile key :=
        fun hEq => hSame (profiledKey_injective hEq)
      simpa [Ledger.setProfile, hSame] using (hOther _ hNe).trans (hRefines.profiles other hKey')
  marked := by
    intro other hMem hOtherKey
    by_cases hSame : other = profiledKey profile key
    · exact ⟨profile, key, hKey, hSame⟩
    · apply hRefines.marked _ hOtherKey
      rw [← lookup_isSome] at hMem ⊢
      rwa [hOther other hSame] at hMem

lemma refines_setGlobal
  (hRefines : Refines s) (hKey : isProfiled key = false) (hSelf : prefs.lookup key = value)
  (hOther : ∀ other, other ≠ key → prefs.lookup other = s.prefs.lookup other) :
  Refines ⟨prefs, s.ledger.setGlobal key value⟩ where
  globals := by
    intro other hOtherKey
    by_cases hSame : other = key
    · rw [hSame]
      simpa [Ledger.setGlobal] using hSelf
    · simpa [Ledger.setGlobal, hSame] using (hOther other hSame).trans (hRefines.globals hOtherKey)
  profiles := by
    intro profile key' hKey'
    have hNe : profiledKey profile key' ≠ key := ne_of_isProfiled (isProfiled_profiledKey _ _) hKey
    exact (hOther _ hNe).trans (hRefines.profiles profile hKey')
  marked := by
    intro other hMem hOtherKey
    have hNe : other ≠ key := ne_of_isProfiled hOtherKey hKey
    apply hRefines.marked _ hOtherKey
    rw [← lookup_isSome] at hMem ⊢
    rwa [hOther other hNe] at hMem

lemma refines_write (hRefines : Refines s) {name : Key}
  (hName : physicalKey s.prefs key = some name) (hSelf : prefs.lookup name = value)
  (hOther : ∀ other, other ≠ name → prefs.lookup other = s.prefs.lookup other) :
  Refines ⟨prefs, s.ledger.write key value⟩ := by
  rw [physicalKey, hRefines.active_eq] at hName
  cases hKey : isProfiled key with
  | false =>
    have hEq : key = name := by simpa [hKey] using hName
    subst hEq
    simp only [Ledger.write, hKey]
    exact refines_setGlobal hRefines hKey hSelf hOther
  | true =>
    cases hActive : s.ledger.active with
    | none => simp [hKey, hActive] at hName
    | some profile =>
      have hEq : profiledKey profile key = name := by simpa [hKey, hActive] using hName
      subst hEq
      simp only [Ledger.write, hKey, hActive, if_true]
      exact refines_setProfile hRefines hKey hSelf hOther

-- Switching

lemma foldl_move_of_global
  (target : Fin count) (hGlobal : ∀ entry ∈ snapshot, isProfiled entry.1 = false)
  (prefs : Prefs) : snapshot.foldl (move target) prefs = prefs := by
  induction snapshot with
  | nil => rfl
  | cons entry _ ih =>
    have hEntry : isProfiled entry.1 = false := hGlobal entry mem_cons_self
    have hMove : move target prefs entry = prefs := by simp [move, hEntry]
    rw [foldl_cons, hMove]
    exact ih fun other hMem => hGlobal other (mem_cons_of_mem _ hMem)

/-
  A key that is none of the snapshot's is never removed, so it is there at the end if it was there
  or an entry is moved to it.
-/
lemma mem_foldl_move {target : Fin count} (hFresh : ∀ entry ∈ snapshot, entry.1 ≠ key)
  (hWritten : key ∈ prefs ∨ ∃ entry ∈ snapshot, isProfiled entry.1 =
  true ∧ profiledKey target (bare entry.1) = key) : key ∈ snapshot.foldl (move target) prefs := by
  induction snapshot generalizing prefs with
  | nil =>
    rcases hWritten with hMem | ⟨_, hMem, _⟩
    · exact hMem
    · cases hMem
  | cons entry _ ih =>
    rw [foldl_cons]
    apply ih fun other hMem => hFresh other (mem_cons_of_mem _ hMem)
    have hNe : key ≠ entry.1 := (hFresh entry mem_cons_self).symm
    rcases hWritten with hMem | ⟨other, hMem, hMoved⟩
    · left
      unfold move
      split
      · exact (mem_insert _).mpr (.inr (mem_erase.mpr ⟨hNe, hMem⟩))
      · exact hMem
    · rcases mem_cons.mp hMem with rfl | hMem
      · left
        simp [move, hMoved.1, hMoved.2]
      · exact .inr ⟨other, hMem, hMoved⟩

lemma switch_cases {result : Nat × Prefs} (hSwitch : switch prefs index snapshot = some result) :
  (¬ Leaves (active prefs) index ∧ result.2 = prefs) ∨ ∃ target :
  Fin count, Leaves (active prefs) index ∧ profileOf (some (.int index)) = some target ∧
  result.2 = (snapshot.foldl (move target) prefs).insert activeProfile (.int index) := by
  unfold switch at hSwitch
  split at hSwitch
  case isFalse hOut =>
    cases hSwitch
    refine .inl ⟨?_, rfl⟩
    intro hLeaves
    cases hActive : active prefs with
    | none => simp [hActive, Leaves] at hLeaves
    | some =>
      rw [hActive] at hLeaves
      exact hOut ⟨hLeaves.1, hLeaves.2.1⟩
  case isTrue hIndex =>
    rcases Option.map_eq_some_iff.mp hSwitch with ⟨profile, hActive, hResult⟩
    rw [hActive]
    dsimp only at hResult
    split at hResult
    case isTrue hSame =>
      subst hResult
      refine .inl ⟨?_, rfl⟩
      intro hLeaves
      apply hLeaves.2.2
      rw [hSame]
      exact Int.toNat_of_nonneg hIndex.1
    case isFalse hOther =>
      subst hResult
      refine .inr ⟨⟨index.toNat, by omega⟩, ?_, ?_, rfl⟩
      · refine ⟨hIndex.1, hIndex.2, ?_⟩
        intro hEq
        apply hOther
        apply Fin.ext
        simp [← hEq]
      · rw [profileOf, dif_pos hIndex]

lemma isSome_switch (hLeaves : Leaves (active prefs) index)
  (snapshot : List Entry) : (switch prefs index snapshot).isSome := by
  cases hActive : active prefs with
  | none => simp [hActive, Leaves] at hLeaves
  | some =>
    unfold switch
    split
    · simp [hActive]
    · rfl

lemma refines_switch (hRefines : Refines s) (hClean : Clean s (.switch index snapshot))
  (hStep : step s (.switch index snapshot) = some s') : Refines s' := by
  simp only [step] at hStep
  split at hStep
  case isFalse => cases hStep
  case isTrue hPerm =>
    rcases Option.map_eq_some_iff.mp hStep with ⟨result, hSwitch, rfl⟩
    rw [Ledger.switch, ← hRefines.active_eq]
    rcases switch_cases hSwitch with ⟨hStays, hPrefs⟩ | ⟨target, hLeaves, _, hPrefs⟩
    · rw [hPrefs, if_neg hStays]
      exact hRefines
    · have hGlobal : ∀ entry ∈ snapshot, isProfiled entry.1 = false := by
        intro entry hMem
        exact hClean hPerm hLeaves entry.1 (mem_map_of_mem (hPerm.mem_iff.mp hMem))
      rw [hPrefs, if_pos hLeaves, foldl_move_of_global _ hGlobal]
      exact refines_setGlobal hRefines isProfiled_activeProfile
        (lookup_insert _) fun _ hOther => lookup_insert_ne hOther

lemma refines_step {op : Op} (hRefines : Refines s) (hClean : Clean s op)
  (hStep : step s op = some s') : Refines s' := by
  cases op with
  | put =>
    simp only [step, ProfiledPrefs.put, Option.map_map, Option.map_eq_some_iff] at hStep
    rcases hStep with ⟨name, hName, rfl⟩
    exact refines_write hRefines hName (lookup_insert _)
      fun _ hOther => lookup_insert_ne hOther
  | remove =>
    simp only [step, ProfiledPrefs.remove, Option.map_map, Option.map_eq_some_iff] at hStep
    rcases hStep with ⟨name, hName, rfl⟩
    exact refines_write hRefines hName (lookup_erase _ _)
      fun _ hOther => lookup_erase_ne hOther
  | switch => exact refines_switch hRefines hClean hStep

-- The First Switch That Is Not Clean

lemma exists_longest (hStored : ∃ key ∈ prefs, isProfiled key) : ∃ key ∈ prefs, isProfiled key ∧
  ∀ other ∈ prefs, isProfiled other → other.length ≤ key.length := by
  have hNonempty : (prefs.keys.filter isProfiled).toFinset.Nonempty := by
    rcases hStored with ⟨key, hMem, hKey⟩
    exact ⟨key, by simpa [← AList.mem_keys] using ⟨hMem, hKey⟩⟩
  rcases Finset.exists_max_image _ length hNonempty with ⟨key, hMem, hMax⟩
  have hKey : key ∈ prefs ∧ isProfiled key := by simpa [← AList.mem_keys] using hMem
  refine ⟨key, hKey.1, hKey.2, ?_⟩
  intro other hOther hProfiled
  exact hMax other (by
    simpa [← AList.mem_keys] using ⟨hOther, hProfiled⟩)

/-
  The longest key is moved to a name of its own that no profile has written, and reads as a value
  there.
-/
lemma not_independent_of_switch
  (hRefines : Refines s) (hClean : ¬ Clean s (.switch index snapshot)) :
  ∃ s', step s (.switch index snapshot) = some s' ∧ ¬ Independent s' := by
  simp only [Clean, Classical.not_imp, not_forall, Bool.not_eq_false] at hClean
  rcases hClean with ⟨hPerm, hLeaves, stored, hMem, hStored⟩
  rcases Option.isSome_iff_exists.mp (isSome_switch hLeaves snapshot) with ⟨result, hSwitch⟩
  refine ⟨⟨result.2, s.ledger.switch index⟩, ?_, ?_⟩
  · simp [step, hPerm, hSwitch]
  rcases switch_cases hSwitch with ⟨hStays, _⟩ | ⟨target, _, _, hPrefs⟩
  · exact absurd hLeaves hStays
  rcases exists_longest ⟨stored, hMem, hStored⟩ with ⟨longest, hLongest, hProfiled, hMax⟩
  rcases hRefines.marked hLongest hProfiled with ⟨profile, name, _, rfl⟩
  let key := profiledKey target ('_' :: name)
  have hFresh : key ∉ s.prefs := by
    intro hKey
    have hLength := hMax key hKey (isProfiled_profiledKey _ _)
    simp only [key, profiledKey_eq, length_cons] at hLength
    omega
  have hKeys : ∀ entry ∈ snapshot, entry.1 ≠ key := by
    intro entry hEntry hEq
    apply hFresh
    rw [← hEq]
    exact mem_map_of_mem (hPerm.mem_iff.mp hEntry)
  have hMoved : key ∈ snapshot.foldl (move target) s.prefs := by
    rcases mem_map.mp hLongest with ⟨entry, hEntry, hEq⟩
    refine mem_foldl_move hKeys (.inr ⟨entry, hPerm.mem_iff.mpr hEntry, ?_, ?_⟩)
    · rw [hEq]
      exact hProfiled
    · rw [hEq]
      simp [key, bare]
  intro hIndependent
  have hRead := hIndependent.2 target ('_' :: name) (isProfiled_underscore name)
  have hNone : (s.ledger.switch index).profiles target ('_' :: name) = none := by
    have hSame : (s.ledger.switch index).profiles = s.ledger.profiles := by
      unfold Ledger.switch
      split <;> rfl
    rw [hSame, ← hRefines.profiles target (isProfiled_underscore name)]
    exact lookup_eq_none.mpr hFresh
  rw [hNone, hPrefs] at hRead
  exact lookup_eq_none.mp hRead ((mem_insert _).mpr (.inr hMoved))

-- Independence

/-
  The profiles are independent along a sequence of operations exactly if every switch to another
  profile in it finds no key of a profile in the file.
-/
theorem independent_iff_clean
    (ops : List Op) :
    Run.Throughout step Independent install ops ↔ Run.Taken step Clean install ops := by
  apply Run.throughout_iff_taken (I := Refines) Refines.independent refines_step
  · intro s op hRefines hClean
    cases op with
    | put | remove => exact absurd trivial hClean
    | switch => exact not_independent_of_switch hRefines hClean
  · exact refines_install

/-
  Profile A's kill switch, from A to B and back: the value is behind two more underscores, and the
  key reads as absent.
-/
theorem kill_switch_lost : ¬ ∀ ops : List Op, Run.Throughout step Independent install ops := by
  intro hAll
  let key : Key := "kill_switch".toList
  let value : Value := .boolean true
  let ops : List Op := [.put key value, .switch 1 [⟨profiledKey 0 key, value⟩],
    .switch 0 [⟨activeProfile, .int 1⟩, ⟨profiledKey 1 ('_' :: key), value⟩]]
  refine Run.not_throughout (q := fun s : System =>
    decide (ProfiledPrefs.get s.prefs key ≠ s.ledger.read key))
    ?_ ?_ (hAll ops)
  · intro s hNe hIndependent
    have hRead := of_decide_eq_true hNe
    exact hRead (hIndependent.1 key)
  · decide +kernel

end Kourosh.Profiles
