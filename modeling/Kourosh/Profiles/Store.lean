import Kourosh.Lib.Jvm
import Mathlib.Data.List.AList
import Mathlib.Data.Fin.Basic

/-
  The settings file and its four profiles.

  All profiles live in one file. Chained edits, which leave the profile, are left out.
-/

-- The Preference File

namespace Kourosh.Profiles

open List

abbrev Key := List Char

inductive Value where
  | boolean (b : Bool)
  | int (n : Int)
  | long (n : Int)
  -- the bits of the number
  | float (bits : UInt32)
  | string (s : List Char)
  | stringSet (s : List (List Char))
deriving DecidableEq

/- The entries of the file `settings`, one for each key. -/
abbrev Prefs := AList fun _ : Key => Value

abbrev Entry := Sigma fun _ : Key => Value

-- Keys

def activeProfile : Key := "active_profile".toList

abbrev count : Nat := 4

/- `SettingsBackup.TRANSIENT_KEYS` -/
def transientKeys : List Key := ["last_ip", "last_exit_region", "shard_etag",
  "shard_last_check", "shard_last_count",
  "shard_last_paths", "policy_etag", "policy_last_check",
  "smart_split_etag", "smart_split_last_check",
  "psiphon_available_regions", "psiphon_winning_strategy",
  "psiphon_winning_strategy_shape",
  "psiphon_winning_strategy_chained",
  "psiphon_winning_strategy_chained_shape",
  "chain_outer_index", "plain_working_transport",
  "tor_winning_mode", "tor_winning_mode_chained",
  "auto_scan_done"].map String.toList

def keysNotProfiled : List Key := activeProfile ::
  ["app_language", "language_chosen", "rx_total", "tx_total",
    "month_start", "traffic_stats", "last_ip",
    "last_exit_region", "shard_etag", "shard_last_check",
    "shard_last_count", "shard_last_paths", "policy_etag",
    "policy_last_check", "smart_split_etag",
    "smart_split_last_check", "psiphon_available_regions",
    "psiphon_winning_strategy",
    "psiphon_winning_strategy_shape",
    "psiphon_winning_strategy_chained",
    "psiphon_winning_strategy_chained_shape",
    "chain_outer_index", "plain_working_transport",
    "tor_winning_mode", "tor_winning_mode_chained",
    "auto_scan_done"].map String.toList ++
  (range 33).map (fun n => "section_open_".toList ++ Nat.toDigits 10 n) ++
  transientKeys

def prefixesNotProfiled : List Key := ["smart_split_profile_".toList]

def isProfiled (key : Key) : Bool :=
  decide (key ∉ keysNotProfiled) && !prefixesNotProfiled.any (isPrefixOf · key)

def profiledKey (profile : Fin count) (key : Key) : Key :=
  'p' :: (Nat.toDigits 10 profile ++ '_' :: key)

def stripProfile (key : Key) : Option Key :=
  match key with
  | first :: second :: rest =>
    if rest.isEmpty || first != 'p' || !Jvm.isDigit second then none
    else some rest
  | _ => none

-- The Profiled Preferences

/- The profile a stored choice stands for. -/
def profileOf : Option Value → Option (Fin count)
| none => some 0
| some (.int n) => if h : 0 ≤ n ∧ n < count then some ⟨n.toNat, by omega⟩ else some 0
| some _ => none

def active (prefs : Prefs) : Option (Fin count) := profileOf (prefs.lookup activeProfile)

def physicalKey (prefs : Prefs) (key : Key) : Option Key :=
  if isProfiled key then (active prefs).map fun profile => profiledKey profile key
  else some key

namespace ProfiledPrefs

def get (prefs : Prefs) (key : Key) : Option (Option Value) :=
  (physicalKey prefs key).map fun name => prefs.lookup name

def put (prefs : Prefs) (key : Key) (value : Value) : Option Prefs :=
  (physicalKey prefs key).map fun name => prefs.insert name value

def remove (prefs : Prefs) (key : Key) : Option Prefs :=
  (physicalKey prefs key).map fun name => prefs.erase name

end ProfiledPrefs

-- Switching

def bare (key : Key) : Key := (stripProfile key).getD key

def move (index : Fin count) (prefs : Prefs) (entry : Entry) : Prefs :=
  if isProfiled entry.1 then (prefs.erase entry.1).insert (profiledKey index (bare entry.1)) entry.2
  else prefs

/- Make a profile the active one; the result says how many keys moved. -/
def switch (prefs : Prefs) (index : Int) (snapshot : List Entry) : Option (Nat × Prefs) :=
  if h : 0 ≤ index ∧ index < count then
    (active prefs).map fun profile =>
      let target : Fin count := ⟨index.toNat, by omega⟩
      if profile = target then (0, prefs)
      else
        ((snapshot.filter fun entry => isProfiled entry.1).length,
          (snapshot.foldl (move target) prefs).insert activeProfile (.int index))
  else some (0, prefs)

-- Facts About Keys

lemma profiledKey_eq (profile : Fin count) (key : Key) :
  profiledKey profile key = 'p' :: Nat.digitChar profile :: '_' :: key := by
  have hDigits : ∀ profile : Fin count, Nat.toDigits 10 profile = [Nat.digitChar profile] := by
    decide
  rw [profiledKey, hDigits profile]
  rfl

lemma isDigit_digitChar (profile : Fin count) : Jvm.isDigit (Nat.digitChar profile) := by
  revert profile
  decide

lemma profiledKey_injective {profile other : Fin count} {key key' : Key}
  (hEq : profiledKey profile key = profiledKey other key') : profile = other ∧ key = key' := by
  rw [profiledKey_eq, profiledKey_eq] at hEq
  injection hEq with _ hEq
  injection hEq with hDigit hEq
  injection hEq with _ hKey
  refine ⟨?_, hKey⟩
  revert profile other
  decide

@[simp]
lemma stripProfile_profiledKey (profile : Fin count) (key : Key) :
  stripProfile (profiledKey profile key) = some ('_' :: key) := by
  rw [profiledKey_eq]
  simp [stripProfile, isDigit_digitChar]

variable {key : Key}

lemma stripProfile_of_mem_keysNotProfiled (hKey : key ∈ keysNotProfiled) :
  stripProfile key = none := by
  have hAll : keysNotProfiled.all (fun key => stripProfile key == none) := by decide +kernel
  exact beq_iff_eq.mp (all_eq_true.mp hAll key hKey)

lemma isProfiled_cons {c : Char}
  (hNotMem : c :: key ∉ keysNotProfiled) (hHead : 's' ≠ c) : isProfiled (c :: key) := by
  have hBeq : ('s' == c) = false := beq_false_of_ne hHead
  simp [isProfiled, hNotMem, prefixesNotProfiled, isPrefixOf, hBeq]

@[simp]
lemma isProfiled_profiledKey (profile : Fin count) (key : Key) :
  isProfiled (profiledKey profile key) := by
  have hNotMem : profiledKey profile key ∉ keysNotProfiled := by
    intro hMem
    have hNone := stripProfile_of_mem_keysNotProfiled hMem
    rw [stripProfile_profiledKey] at hNone
    cases hNone
  exact isProfiled_cons hNotMem (by decide)

lemma isProfiled_underscore (key : Key) : isProfiled ('_' :: key) := by
  have hAll : keysNotProfiled.all (fun key => key.head? != some '_') := by decide +kernel
  have hNotMem : '_' :: key ∉ keysNotProfiled := by
    intro hMem
    have hHead := all_eq_true.mp hAll _ hMem
    simp at hHead
  exact isProfiled_cons hNotMem (by decide)

@[simp]
lemma isProfiled_activeProfile : isProfiled activeProfile = false := by decide +kernel

lemma ne_of_isProfiled {other : Key} (hKey : isProfiled key)
  (hOther : isProfiled other = false) : key ≠ other := by
  intro hEq
  rw [hEq, hOther] at hKey
  cases hKey

end Kourosh.Profiles
