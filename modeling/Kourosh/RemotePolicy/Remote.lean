import Kourosh.RemotePolicy.Validation

/-
  The remote policy: its cache file and the lists in force.

  A body that is fetched is parsed, and each of its lists that does not validate is taken from
  what is in memory.
-/

-- Policies

namespace Kourosh.RemotePolicy

structure Policy where
  edges : List Text
  geoBlocked : List Text
  sanctioned : List Text
  exitEndpoints : List ExitEndpoint
deriving DecidableEq

def builtin : Policy where
  edges := ["104.21.70.21", "104.21.33.59", "188.114.97.0"].map String.toList
  geoBlocked := ["www.nvidia.com", "nvidia.com", "images.nvidia.com",
    "www.avast.com", "avast.com", "www.android.com",
    "android.com"].map String.toList
  sanctioned := []
  exitEndpoints := []

structure Verdict where
  edges : Option (List Text)
  geoBlocked : Option (List Text)
  sanctioned : Option (List Text)
  exitEndpoints : Option (List ExitEndpoint)
deriving DecidableEq

namespace Verdict

def nothing : Verdict where
  edges := none
  geoBlocked := none
  sanctioned := none
  exitEndpoints := none

def merge (verdict : Verdict) (current : Policy) : Policy where
  edges := verdict.edges.getD current.edges
  geoBlocked := verdict.geoBlocked.getD current.geoBlocked
  sanctioned := verdict.sanctioned.getD current.sanctioned
  exitEndpoints := verdict.exitEndpoints.getD current.exitEndpoints

@[simp]
lemma nothing_merge (current : Policy) : nothing.merge current = current := rfl

@[simp]
lemma merge_merge (verdict : Verdict) (current : Policy) :
  verdict.merge (verdict.merge current) = verdict.merge current := by
  rcases verdict with ⟨_ | _, _ | _, _ | _, _ | _⟩ <;> rfl

end Verdict

variable (platform : Platform)

def verdict (root : Root) : Verdict where
  edges := validateEdges root.edges
  geoBlocked := validateHosts platform root.geoBlocked
  sanctioned := validateSanctioned platform root.sanctioned
  exitEndpoints := validateExitEndpoints platform root.exitEndpoints

def read (body : Text) : Option Verdict :=
  match platform.json body with
  | none => none
  | some root =>
    if verdict platform root = .nothing then none
    else some (verdict platform root)

def parse (cached : Option Policy) (body : Text) : Option Policy :=
  (read platform body).map fun verdict => verdict.merge (cached.getD builtin)

-- Lookups, Refreshes, Restarts

/- The cache file and the field `cached`. -/
structure Remote where
  file : Option Text
  cached : Option Policy

def readCache (remote : Remote) : Option Policy :=
  remote.file.bind (parse platform remote.cached)

def policy (platform : Platform) (remote : Remote) : Policy :=
  match remote.cached with
  | some policy => policy
  | none => (readCache platform remote).getD builtin

def exitEndpointsFor (endpoints : List ExitEndpoint) (countries : List Text)
  (transport : Text) : List ExitEndpoint :=
  endpoints.filter fun entry =>
    countries.contains entry.country && entry.transports.contains transport

def maxBodyChars : Nat := 64 * 1024

/- The answer `200` to a refresh. -/
def refresh (remote : Remote) (response : Text) (renamed : Bool) : Remote :=
  let body := response.take maxBodyChars
  match parse platform remote.cached body with
  | none => remote
  | some parsed => if renamed then { file := some body, cached := some parsed } else remote

inductive Event where
  -- whether the file could be replaced is the system's
  | fetch (response : Text) (renamed : Bool)
  | restart
  | lookup

def step (remote : Remote) : Event → Option Remote
| .fetch response renamed => some (refresh platform remote response renamed)
| .restart => some { remote with cached := none }
| .lookup => some { remote with cached := some (policy platform remote) }

-- What A Process Reads

def fileVerdict (remote : Remote) : Verdict :=
  (remote.file.bind (read platform)).getD .nothing

/- The lists that a process without any finds. -/
lemma policy_of_cached_none
  {platform : Platform} {remote : Remote} (hCached : remote.cached = none) :
  policy platform remote = (fileVerdict platform remote).merge builtin := by
  rw [policy, hCached]
  cases hFile : remote.file with
  | none => simp [readCache, fileVerdict, hFile]
  | some body =>
    cases hRead : read platform body with
    | none => simp [readCache, fileVerdict, hFile, parse, hRead]
    | some => simp [readCache, fileVerdict, hFile, parse, hRead, hCached]

/- A refresh keeps everything, or takes a body over. -/
lemma refresh_cases (remote : Remote) (response : Text) (renamed : Bool) :
  (refresh platform remote response renamed = remote ∧
    (read platform (response.take maxBodyChars) = none ∨ renamed = false)) ∨
    ∃ verdict, read platform (response.take maxBodyChars) = some verdict ∧ renamed ∧
      refresh platform remote response renamed =
        { file := some (response.take maxBodyChars),
          cached := some (verdict.merge (remote.cached.getD builtin)) } := by
  cases hRead : read platform (response.take maxBodyChars) with
  | none =>
    refine .inl ⟨?_, .inl rfl⟩
    simp [refresh, parse, hRead]
  | some verdict =>
    cases renamed with
    | false =>
      refine .inl ⟨?_, .inr rfl⟩
      simp [refresh, parse, hRead]
    | true =>
      refine .inr ⟨verdict, rfl, rfl, ?_⟩
      simp [refresh, parse, hRead]

end Kourosh.RemotePolicy
