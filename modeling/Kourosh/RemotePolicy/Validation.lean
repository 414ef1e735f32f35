import Kourosh.Shard.Edges

/-
  Validation of the lists in a policy file.

  Each list of the file is scanned up to a bound.
-/

-- Documents

namespace Kourosh.RemotePolicy

abbrev Text := List Char

/- An object of the array `exit_endpoints`. -/
structure ExitEntry where
  endpoint : Text
  country : Text
  transports : Option (List Text)

/-
  What is read of a document: the entries of each array as texts, if there is an array of that
  name.
-/
structure Root where
  edges : Option (List Text)
  geoBlocked : Option (List Text)
  sanctioned : Option (List Text)
  -- an element that is no object is skipped
  exitEndpoints : Option (List (Option ExitEntry))

structure Platform where
  lowercase : Text → Text
  uppercase : Text → Text
  -- no document, if the text does not parse
  json : Text → Option Root

structure ExitEndpoint where
  endpoint : Text
  country : Text
  transports : List Text
deriving DecidableEq

-- Scanning A List

def maxEdges : Nat := 24

def maxHosts : Nat := 64

def maxSanctioned : Nat := 64

def maxExitEndpoints : Nat := 8

def scanFactor : Nat := 8

section Scanning

variable {α β : Type}

def collect (accept : α → Option β) (add : List β → β → List β)
  (cap : Nat) : List β → List α → List β
| out, [] => out
| out, value :: rest =>
  match accept value with
  | none => collect accept add cap out rest
  | some entry =>
    if (add out entry).length ≥ cap then add out entry
    else collect accept add cap (add out entry) rest

def validate (accept : α → Option β) (add : List β → β → List β) (cap : Nat)
  (array : Option (List α)) : Option (List β) :=
  match array with
  | none => none
  | some values =>
    let out := collect accept add cap [] (values.take (cap * scanFactor))
    if out.isEmpty then none else some out

/- An entry of a `LinkedHashSet`. -/
def addDistinct [DecidableEq β] (out : List β) (entry : β) : List β :=
  if entry ∈ out then out else out ++ [entry]

/- An entry of an `ArrayList`. -/
def addLast (out : List β) (entry : β) : List β := out ++ [entry]

end Scanning

-- The Four Lists

def dottedQuad (value : Text) : Bool :=
  let parts := value.splitOn '.'
  parts.length == 4 && parts.all fun part =>
    !part.isEmpty && decide (part.length ≤ 3) && part.all Char.isDigit

def acceptEdge (raw : Text) : Option Text :=
  let value := Jvm.trim raw
  if value.isEmpty then none
  else if !dottedQuad value || !Shard.isCloudflareAddress value then none
  else some value

def validateEdges (array : Option (List Text)) : Option (List Text) :=
  validate acceptEdge addDistinct maxEdges array

def isHostnameChar (c : Char) : Bool :=
  ('a' ≤ c && c ≤ 'z') || ('0' ≤ c && c ≤ '9') || c == '.' || c == '-'

def isHostname (value : Text) : Bool :=
  if value.length < 4 || 253 < value.length then false
  else if !value.contains '.' then false
  else if value.head? == some '.' || value.getLast? == some '.' then false
  else if value.head? == some '-' || value.getLast? == some '-' then false
  else if decide (['.', '.'] <:+: value) then false
  else value.all isHostnameChar

def acceptHost (platform : Platform) (raw : Text) : Option Text :=
  let value := platform.lowercase (Jvm.trim raw)
  if isHostname value then some value else none

def validateHosts (platform : Platform) (array : Option (List Text)) : Option (List Text) :=
  validate (acceptHost platform) addDistinct maxHosts array

def wildcardDeny : List Text :=
  ["co.ir", "ac.ir", "org.ir", "net.ir", "gov.ir", "id.ir",
    "sch.ir", "co.uk", "org.uk", "ac.uk", "gov.uk", "com.au",
    "com.br", "com.cn", "com.tr", "com.mx", "com.ar", "co.jp",
    "co.kr", "co.in", "co.za", "co.nz", "com.sa",
    "com.eg"].map String.toList

def isWildcard (entry : Text) : Bool := ['*', '.'].isPrefixOf entry

local instance lawfulText : LawfulBEq (List Char) := inferInstance

def acceptSanctioned (platform : Platform) (raw : Text) : Option Text :=
  let raw := platform.lowercase (Jvm.trim raw)
  let host := if isWildcard raw then raw.drop 2 else raw
  if raw.isEmpty then none
  else if !isHostname host then none
  else if isWildcard raw && (decide (host.count '.' < 1) || decide (host ∈ wildcardDeny)) then none
  else if isWildcard raw then some ('*' :: '.' :: host) else some host

def validateSanctioned (platform : Platform) (array : Option (List Text)) : Option (List Text) :=
  validate (acceptSanctioned platform) addDistinct maxSanctioned array

def warpTransports : List Text := ["MASQUE", "WIREGUARD", "GOOL", "MIM"].map String.toList

def isPort (port : Text) : Bool :=
  match Jvm.toIntOrNull port with
  | none => false
  | some n => 1 ≤ n && n ≤ 65535

def acceptExitEndpoint (platform : Platform) : Option ExitEntry → Option ExitEndpoint
| none => none
| some entry =>
  let endpoint := Jvm.trim entry.endpoint
  let host := Jvm.trim (endpoint.takeWhile (· != ':'))
  let port := Jvm.trim ((endpoint.dropWhile (· != ':')).drop 1)
  let country := platform.uppercase (Jvm.trim entry.country)
  let transports := (entry.transports.getD []).map fun name => platform.uppercase (Jvm.trim name)
  if host.isEmpty || port.isEmpty || !isPort port || !dottedQuad host || country.length != 2 ||
    !country.all (fun c => 'A' ≤ c && c ≤ 'Z') ||
    !transports.any (fun name => decide (name ∈ warpTransports)) then none
  else some ⟨endpoint, country, transports⟩

def validateExitEndpoints
  (platform : Platform) (array : Option (List (Option ExitEntry))) : Option (List ExitEndpoint) :=
  validate (acceptExitEndpoint platform) addLast maxExitEndpoints array

-- What Survives A Scan

structure Adds {β : Type} (add : List β → β → List β) : Prop where
  mem : ∀ {out : List β} {entry other : β}, other ∈ add out entry → other ∈ out ∨ other = entry
  length : ∀ (out : List β) (entry : β), (add out entry).length ≤ out.length + 1

lemma adds_addDistinct {β : Type} [DecidableEq β] : Adds (@addDistinct β _) where
  mem := by
    intro out entry other hMem
    unfold addDistinct at hMem
    split at hMem
    · exact .inl hMem
    · simpa using hMem
  length := by
    intro out entry
    unfold addDistinct
    split
    · omega
    · simp

lemma adds_addLast {β : Type} : Adds (@addLast β) where
  mem := by
    intro out entry other hMem
    simpa [addLast] using hMem
  length := by
    intro out entry
    simp [addLast]

section Scanning

variable {α β : Type} {accept : α → Option β} {add : List β → β → List β}
variable {cap : Nat}

variable {p : β → Prop} {out : List β} {array : Option (List α)}

lemma mem_collect
  (hAdds : Adds add) (hAccept : ∀ {value : α} {entry : β}, accept value = some entry → p entry)
  (hOut : ∀ entry ∈ out, p entry)
  (values : List α) : ∀ entry ∈ collect accept add cap out values, p entry := by
  induction values generalizing out with
  | nil => exact hOut
  | cons value _ ih =>
    unfold collect
    cases hValue : accept value with
    | none => exact ih hOut
    | some added =>
      have hAdded : ∀ entry ∈ add out added, p entry := by
        intro entry hMem
        rcases hAdds.mem hMem with hOld | rfl
        · exact hOut entry hOld
        · exact hAccept hValue
      dsimp only
      split
      · exact hAdded
      · exact ih hAdded

lemma length_collect_le (hAdds : Adds add) (hOut : out.length < cap)
  (values : List α) : (collect accept add cap out values).length ≤ cap := by
  induction values generalizing out with
  | nil => exact hOut.le
  | cons value rest ih =>
    unfold collect
    cases accept value with
    | none => exact ih hOut
    | some added =>
      have hLength := hAdds.length out added
      dsimp only
      split
      · omega
      next hRoom => exact ih (by omega)

lemma exists_of_validate (hValid : validate accept add cap array = some out) :
  out ≠ [] ∧ ∃ values, collect accept add cap [] values = out := by
  unfold validate at hValid
  cases array with
  | none => cases hValid
  | some values =>
    dsimp only at hValid
    split at hValid
    · cases hValid
    next hEmpty =>
      cases hValid
      exact ⟨by simpa using hEmpty, _, rfl⟩

lemma mem_of_validate
  (hAdds : Adds add) (hAccept : ∀ {value : α} {entry : β}, accept value = some entry → p entry)
  (hValid : validate accept add cap array = some out) : ∀ entry ∈ out, p entry := by
  rcases exists_of_validate hValid with ⟨_, values, rfl⟩
  exact mem_collect hAdds hAccept (by simp) values

lemma length_of_validate (hAdds : Adds add) (hCap : 0 < cap)
  (hValid : validate accept add cap array = some out) : out.length ≤ cap := by
  rcases exists_of_validate hValid with ⟨_, values, rfl⟩
  exact length_collect_le hAdds hCap values

end Scanning

end Kourosh.RemotePolicy
