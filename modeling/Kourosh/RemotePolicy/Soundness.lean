import Kourosh.Lib.Run
import Kourosh.Shard.Rules

/-
  What a policy file can put into force.

  Whatever was fetched, cached and merged, the lists in force are made of entries that passed the
  checks or came with the app.

  Correctness is proven by:
    * `policy_writes_no_rules`
-/

-- Host Names

namespace Kourosh.RemotePolicy

open List

structure HostName (host : Text) : Prop where
  length : 4 ≤ host.length ∧ host.length ≤ 253
  chars : ∀ c ∈ host, ('a' ≤ c ∧ c ≤ 'z') ∨ ('0' ≤ c ∧ c ≤ '9') ∨ c = '.' ∨ c = '-'
  dotted : '.' ∈ host
  labels : [] ∉ host.splitOn '.'
  first : host.head? ≠ some '.' ∧ host.head? ≠ some '-'
  last : host.getLast? ≠ some '.' ∧ host.getLast? ≠ some '-'

lemma hostName_of_isHostname {value : Text} (hHost : isHostname value) : HostName value := by
  unfold isHostname at hHost
  split at hHost
  · cases hHost
  rename_i hLength
  split at hHost
  · cases hHost
  rename_i hDotted
  split at hHost
  · cases hHost
  rename_i hDots
  split at hHost
  · cases hHost
  rename_i hHyphens
  split at hHost
  · cases hHost
  rename_i hPair
  simp only [Bool.or_eq_true, decide_eq_true_eq, not_or, Nat.not_lt] at hLength
  simp only [Bool.not_eq_true, Bool.not_eq_false', contains_iff_mem] at hDotted
  simp only [Bool.or_eq_true, beq_iff_eq, not_or] at hDots hHyphens
  have hPair' : ¬ ['.', '.'] <:+: value := by simpa using hPair
  have hNe : value ≠ [] := ne_nil_of_mem hDotted
  exact {
    length := hLength
    chars := by
      intro c hMem
      have hChar := all_eq_true.mp hHost c hMem
      simpa [isHostnameChar, or_assoc] using hChar
    dotted := hDotted
    labels := Text.nil_notMem_splitOn hNe hDots.1 hDots.2 hPair'
    first := ⟨hDots.1, hHyphens.1⟩
    last := ⟨hDots.2, hHyphens.2⟩ }

-- Sound Policies

def SanctionedEntry (entry : Text) : Prop := HostName entry ∨
  ∃ host, entry = '*' :: '.' :: host ∧ HostName host

structure SoundList {α : Type} (p : α → Prop) (cap : Nat) (entries : List α) : Prop where
  mem : ∀ entry ∈ entries, p entry
  length_le : entries.length ≤ cap

structure Sound (policy : Policy) : Prop where
  edges : SoundList Shard.InCloudflare maxEdges policy.edges
  geoBlocked : SoundList HostName maxHosts policy.geoBlocked
  sanctioned : SoundList SanctionedEntry maxSanctioned policy.sanctioned
  exitEndpoints : SoundList (fun _ => True) maxExitEndpoints policy.exitEndpoints
  edges_ne : policy.edges ≠ []
  geoBlocked_ne : policy.geoBlocked ≠ []

lemma inCloudflare_of_acceptEdge
  {raw edge : Text} (hAccept : acceptEdge raw = some edge) : Shard.InCloudflare edge := by
  unfold acceptEdge at hAccept
  dsimp only at hAccept
  split at hAccept
  · cases hAccept
  split at hAccept
  · cases hAccept
  rename_i hChecks
  cases hAccept
  simp only [Bool.or_eq_true, Bool.not_eq_true', not_or, Bool.not_eq_false] at hChecks
  rcases hChecks with ⟨hQuad, hEdge⟩
  simp only [dottedQuad, Bool.and_eq_true, beq_iff_eq,
    all_eq_true, decide_eq_true_eq, Bool.not_eq_true', isEmpty_eq_false_iff] at hQuad
  refine Shard.inCloudflare_of_isCloudflareAddress hQuad.1 ?_ hEdge
  intro part hPart
  rcases hQuad.2 part hPart with ⟨⟨hNe, hLength⟩, hDigits⟩
  exact ⟨hNe, hLength, hDigits⟩

variable {platform : Platform} {remote : Remote}

lemma hostName_of_acceptHost
  {raw host : Text} (hAccept : acceptHost platform raw = some host) : HostName host := by
  unfold acceptHost at hAccept
  dsimp only at hAccept
  split at hAccept
  next hHost =>
    cases hAccept
    exact hostName_of_isHostname hHost
  · cases hAccept

lemma sanctionedEntry_of_acceptSanctioned {raw entry : Text}
  (hAccept : acceptSanctioned platform raw = some entry) : SanctionedEntry entry := by
  unfold acceptSanctioned at hAccept
  dsimp only at hAccept
  generalize platform.lowercase (Jvm.trim raw) = lower at hAccept
  split at hAccept
  · cases hAccept
  cases hWildcard : isWildcard lower with
  | false =>
    simp only [hWildcard, Bool.false_eq_true, if_false, Bool.false_and] at hAccept
    split at hAccept
    · cases hAccept
    next hHost =>
      cases hAccept
      exact .inl (hostName_of_isHostname (by simpa using hHost))
  | true =>
    simp only [hWildcard, if_true, Bool.true_and] at hAccept
    split at hAccept
    · cases hAccept
    next hHost =>
      split at hAccept
      · cases hAccept
      · cases hAccept
        exact .inr ⟨_, rfl, hostName_of_isHostname (by simpa using hHost)⟩

lemma sound_builtin : Sound builtin where
  edges := by
    have hAll : builtin.edges.all (fun edge => acceptEdge edge == some edge) := by decide +kernel
    refine ⟨?_, by decide⟩
    intro edge hMem
    exact inCloudflare_of_acceptEdge (beq_iff_eq.mp (all_eq_true.mp hAll edge hMem))
  geoBlocked := by
    have hAll : builtin.geoBlocked.all isHostname := by decide +kernel
    refine ⟨?_, by decide⟩
    intro host hMem
    exact hostName_of_isHostname (all_eq_true.mp hAll host hMem)
  sanctioned := ⟨by simp [builtin], by decide⟩
  exitEndpoints := ⟨by simp [builtin], by decide⟩
  edges_ne := by decide
  geoBlocked_ne := by decide

section Scanning

variable {α β : Type} {accept : α → Option β} {add : List β → β → List β}
variable {cap : Nat} {current : List β}

lemma soundList_getD (hAdds : Adds add)
  {p : β → Prop} (hAccept : ∀ {value : α} {entry : β}, accept value = some entry → p entry)
  (hCap : 0 < cap) (hCurrent : SoundList p cap current)
  (array : Option (List α)) : SoundList p cap ((validate accept add cap array).getD current) := by
  cases hValid : validate accept add cap array with
  | none => exact hCurrent
  | some => exact ⟨mem_of_validate hAdds hAccept hValid, length_of_validate hAdds hCap hValid⟩

lemma getD_validate_ne_nil (hCurrent : current ≠ [])
  (array : Option (List α)) : (validate accept add cap array).getD current ≠ [] := by
  cases hValid : validate accept add cap array with
  | none => exact hCurrent
  | some => exact (exists_of_validate hValid).1

end Scanning

lemma sound_merge (platform : Platform) (root : Root) {current : Policy}
  (hCurrent : Sound current) : Sound ((verdict platform root).merge current) where
  edges := soundList_getD adds_addDistinct inCloudflare_of_acceptEdge (by decide) hCurrent.edges _
  geoBlocked := soundList_getD adds_addDistinct hostName_of_acceptHost
    (by decide) hCurrent.geoBlocked _
  sanctioned := soundList_getD adds_addDistinct sanctionedEntry_of_acceptSanctioned (by decide)
    hCurrent.sanctioned _
  exitEndpoints := soundList_getD adds_addLast (fun _ => trivial)
    (by decide) hCurrent.exitEndpoints _
  edges_ne := getD_validate_ne_nil hCurrent.edges_ne _
  geoBlocked_ne := getD_validate_ne_nil hCurrent.geoBlocked_ne _

-- Histories

lemma sound_parse {cached : Option Policy} (hCached : Sound (cached.getD builtin)) {body : Text}
  {parsed : Policy} (hParse : parse platform cached body = some parsed) : Sound parsed := by
  rcases Option.map_eq_some_iff.mp hParse with ⟨said, hRead, rfl⟩
  unfold read at hRead
  split at hRead
  · cases hRead
  next root _ =>
    split at hRead
    · cases hRead
    · cases hRead
      exact sound_merge platform root hCached

def CachedSound (remote : Remote) : Prop := ∀ policy ∈ remote.cached, Sound policy

lemma CachedSound.getD (hCached : CachedSound remote) : Sound (remote.cached.getD builtin) := by
  cases hPolicy : remote.cached with
  | none => exact sound_builtin
  | some policy => exact hCached policy hPolicy

lemma sound_policy (hCached : CachedSound remote) : Sound (policy platform remote) := by
  unfold policy
  split
  next current hCurrent => exact hCached current hCurrent
  · cases hLoaded : readCache platform remote with
    | none => exact sound_builtin
    | some =>
      rcases Option.bind_eq_some_iff.mp hLoaded with ⟨body, _, hParse⟩
      exact sound_parse hCached.getD hParse

lemma cachedSound_step {remote' : Remote} {event : Event} (hCached : CachedSound remote)
  (hStep : step platform remote event = some remote') : CachedSound remote' := by
  cases event with
  | fetch response renamed =>
    cases hStep
    unfold refresh
    dsimp only
    split
    · exact hCached
    next parsed hParse =>
      split
      · intro current hCurrent
        cases hCurrent
        exact sound_parse hCached.getD hParse
      · exact hCached
  | restart =>
    cases hStep
    exact nofun
  | lookup =>
    cases hStep
    intro current hCurrent
    cases hCurrent
    exact sound_policy hCached

def launch (file : Option Text) : Remote where
  file := file
  cached := none

lemma sound_of_reaches
  {file : Option Text} (hRun : Run.Reaches (step platform) Run.Always (launch file) remote) :
  Sound (policy platform remote) := by
  have hCached : CachedSound remote := by
    refine hRun.invariant (I := CachedSound) ?_ ?_
    · exact nofun
    · intro s s' event hCached _ hStep
      exact cachedSound_step hCached hStep
  exact sound_policy hCached

-- Rules

def NameRule (entry : Text) : Prop := ∃ host, HostName host ∧
  (entry = "full:".toList ++ host ∨ entry = "domain:".toList ++ host)

lemma nameRule_sanctionedRule
  {entry : Text} (hEntry : SanctionedEntry entry) : NameRule (Shard.sanctionedRule entry) := by
  rcases hEntry with hHost | ⟨host, rfl, hHost⟩
  · -- a host name does not start with a star
    have hPlain : isWildcard entry = false := by
      cases entry with
      | nil => rfl
      | cons c =>
        have hChar := hHost.chars c mem_cons_self
        have hStar : ('*' == c) = false := by
          rw [beq_eq_false_iff_ne]
          rintro rfl
          revert hChar
          decide
        simp [isWildcard, isPrefixOf, hStar]
    refine ⟨entry, hHost, .inl ?_⟩
    simp [Shard.sanctionedRule, hPlain]
  · exact ⟨host, hHost, .inr rfl⟩

/-
  Along every history, the entries that the rules take from the lists in force name hosts, the
  edges are addresses of the CDN, and the lists are within their caps.
-/
theorem policy_writes_no_rules
    (platform : Platform)
    (file : Option Text)
    {remote : Remote}
    (hRun : Run.Reaches (step platform) Run.Always (launch file) remote) :
    let inForce := policy platform remote
    (∀ entry ∈ Shard.geoBlockedRuleHosts inForce ++ inForce.sanctioned.map Shard.sanctionedRule,
      NameRule entry) ∧
      (∀ edge ∈ inForce.edges, Shard.InCloudflare edge) ∧
      inForce.edges.length ≤ 24 ∧
      inForce.geoBlocked.length ≤ 64 ∧
      inForce.sanctioned.length ≤ 64 ∧
      inForce.exitEndpoints.length ≤ 8 ∧
      inForce.edges ≠ [] ∧
      inForce.geoBlocked ≠ [] := by
  intro inForce
  have hSound : Sound inForce := sound_of_reaches hRun
  refine ⟨?_, hSound.edges.mem,
    hSound.edges.length_le, hSound.geoBlocked.length_le, hSound.sanctioned.length_le,
    hSound.exitEndpoints.length_le, hSound.edges_ne, hSound.geoBlocked_ne⟩
  intro entry hEntry
  rcases mem_append.mp hEntry with hMem | hMem
  · rcases mem_map.mp hMem with ⟨host, hHost, rfl⟩
    exact ⟨host, hSound.geoBlocked.mem host hHost, .inl rfl⟩
  · rcases mem_map.mp hMem with ⟨raw, hRaw, rfl⟩
    exact nameRule_sanctionedRule (hSound.sanctioned.mem raw hRaw)

def hostile : Platform where
  lowercase := id
  uppercase := id
  json := fun _ =>
    some ⟨some ["8.8.8.8".toList, "104.16.0.1".toList],
      some ["geosite:cn".toList, "example.com".toList],
      some ["*.co.uk".toList, "*.example.org".toList],
      none⟩

theorem hostile_writes_no_rules : let remote := refresh hostile (launch none) [] true
  (policy hostile remote).sanctioned = ["*.example.org".toList] ∧ (∀ entry ∈
        Shard.geoBlockedRuleHosts (policy hostile remote) ++
          (policy hostile remote).sanctioned.map Shard.sanctionedRule,
      NameRule entry) ∧
    (policy hostile remote).edges.length ≤ 24 := by
  have hRules := policy_writes_no_rules hostile none
    (.next (e := .fetch [] true) .start trivial rfl)
  exact ⟨by decide +kernel, hRules.1, hRules.2.2.1⟩

end Kourosh.RemotePolicy
