import Kourosh.Basic
import Kourosh.Lib.Utf8

/-
  The file of an identity.

  It is written beside its place and renamed, so a failure at any step leaves the old file.

  Main declarations
    * `save`, `saveMasqueCreds`, `load` : the functions on the file
    * `Faults` : the calls that fail
    * `Kept` : what they promise for a file

  Correctness is proven by:
    * `identity_is_kept_iff`
-/

-- Identities

namespace Kourosh.Config

open Function
open List

abbrev Key (n : Nat) := { bytes : Bytes // bytes.length = n }

structure Account where
  (deviceId accessToken ipv4 ipv6 organization gatewayProxy assignedEndpoint : String)
  certIssuedAt : UInt64
deriving DecidableEq

structure Identity extends Account where
  (certPem keyPem : Bytes)
  (wgPrivateKey wgPeerPublicKey : Key 32)
  clientId : Key 3
  refused : Bool

structure PersistedIdentity extends Account where
  (certPem keyPem : Bytes)
  (wgPrivateKey wgPeerPublicKey clientId : String)
deriving DecidableEq

structure Base64 where
  encode : Bytes → String
  decode : String → Except String Bytes
  decode_encode : ∀ bytes, decode (encode bytes) = .ok bytes
  encode_ne : ∀ bytes, bytes ≠ [] → encode bytes ≠ ""

structure Toml where
  encode : PersistedIdentity → Except String Bytes
  decode : Bytes → Except String PersistedIdentity
  decode_encode : ∀ p text, encode p = .ok text → decode text = .ok p ∧ (utf8Decode text).isSome = true

variable (b : Base64) (t : Toml)

def persisted (id : Identity) : PersistedIdentity where
  toAccount := id.toAccount
  certPem := utf8Lossy id.certPem
  keyPem := utf8Lossy id.keyPem
  wgPrivateKey := b.encode id.wgPrivateKey
  wgPeerPublicKey := b.encode id.wgPeerPublicKey
  clientId := b.encode id.clientId

def decodeFixed (n : Nat) (field value : String) : Except AetherError (Key n) :=
  match b.decode value with
  | .error e => .error (.other ("config field " ++ field ++ " is not valid base64: " ++ e))
  | .ok decoded =>
    if h : decoded.length = n then .ok ⟨decoded, h⟩
    else .error (.other ("config field " ++ field ++ " must decode to " ++ toString n ++
      " bytes, found " ++ toString decoded.length))

def tryFrom (p : PersistedIdentity) : Except AetherError Identity :=
  match decodeFixed b 32 "wg_private_key" p.wgPrivateKey with
  | .error e => .error e
  | .ok wgPrivateKey =>
    match decodeFixed b 32 "wg_peer_public_key" p.wgPeerPublicKey with
    | .error e => .error e
    | .ok wgPeerPublicKey =>
      let zeros : Key 3 := ⟨[0, 0, 0], rfl⟩
      let clientId := if p.clientId = "" then zeros
        else (decodeFixed b 3 "client_id" p.clientId).toOption.getD zeros
      .ok ⟨p.toAccount, p.certPem, p.keyPem, wgPrivateKey, wgPeerPublicKey, clientId, false⟩

-- Files

structure Place where
  dir : String
  name : List Char
deriving DecidableEq

abbrev Files := Place → Option Bytes

structure Faults where
  (createDir openFile write flush sync permissions rename remove read : Option String)
  written : Bytes

def quarantinePath (path : Place) : Place := ⟨path.dir, path.name ++ ".corrupt".toList⟩

def temporary (pid : List Char) (path : Place) : Place :=
  ⟨path.dir, '.' :: path.name ++ '.' :: pid ++ ".tmp".toList⟩

variable (f : Faults) (pid : List Char) (path : Place) (files : Files)

/- The closure of `write_private`. -/
def replace (contents : Bytes) : Files × Except AetherError Unit :=
  let temp := temporary pid path
  match f.openFile with
  | some e => (files, .error (.io e))
  | none =>
    match f.write with
    | some e => (update files temp (some f.written), .error (.io e))
    | none =>
      match f.flush.or (f.sync.or (f.permissions.or f.rename)) with
      | some e => (update files temp (some contents), .error (.io e))
      | none => (update (update files temp none) path (some contents), .ok ())

def writePrivate (contents : Bytes) : Files × Except AetherError Unit :=
  match if path.dir = "" then none else f.createDir with
  | some e => (files, .error (.io e))
  | none =>
    match replace f pid path files contents with
    | (files, .ok _) => (files, .ok ())
    | (files, .error e) =>
      (if f.remove.isSome then files else update files (temporary pid path) none, .error e)

def encodeAndWrite (p : PersistedIdentity) : Files × Except AetherError Unit :=
  match t.encode p with
  | .error e => (files, .error (.other ("config encode: " ++ e)))
  | .ok text => writePrivate f pid path files text

def save (id : Identity) : Files × Except AetherError Unit :=
  encodeAndWrite t f pid path files (persisted b id)

def readToString (bytes : Bytes) : Except AetherError Bytes :=
  match f.read with
  | some e => .error (.io e)
  | none =>
    if utf8Decode bytes = none then .error (.io "stream did not contain valid UTF-8") else .ok bytes

def saveMasqueCreds (certPem keyPem : Bytes) (issuedAt : UInt64) :
  Files × Except AetherError Unit :=
  match files path with
  | none => (files, .ok ())
  | some bytes =>
    match readToString f bytes with
    | .error e => (files, .error e)
    | .ok text =>
      match t.decode text with
      | .error e => (files, .error (.other ("config parse: " ++ e)))
      | .ok p => encodeAndWrite t f pid path files { p with
        certPem := utf8Lossy certPem, keyPem := utf8Lossy keyPem, certIssuedAt := issuedAt }

def moved : Files := update (update files path none) (quarantinePath path) (files path)

def quarantine : Files × Option Place :=
  match f.rename with
  | some _ => (files, none)
  | none => (moved path files, some (quarantinePath path))

/- What `load` returns for a file that cannot be understood. -/
def damaged (display : Place → String) (e : String) : Files × Except AetherError (Option Identity) :=
  let (files, target) := quarantine f path files
  (files, .error (.other (match target with
    | some target => e ++ "; the damaged file was moved to " ++ display target ++
      " so a fresh identity can be provisioned"
    | none => e ++ "; delete " ++ display path ++ " to provision a fresh identity")))

/- What `format!` writes of an error. -/
def message : AetherError → String
| .io text => "io: " ++ text
| .capsule text => "capsule: " ++ text
| .other text => "other: " ++ text

def load (display : Place → String) : Files × Except AetherError (Option Identity) :=
  match files path with
  | none => (files, .ok none)
  | some bytes =>
    match readToString f bytes with
    | .error e => (files, .error e)
    | .ok text =>
      match t.decode text with
      | .error e => damaged f path files display ("config parse: " ++ e)
      | .ok p =>
        match tryFrom b p with
        | .ok id => (files, .ok (some id))
        | .error e => damaged f path files display (message e)

-- Round Trips

variable {b t f pid path files} {p : PersistedIdentity} {id old : Identity} {text : Bytes}
variable {display : Place → String} {g : Faults} {bytes : Bytes}

lemma decodeFixed_encode {n : Nat} (field : String) (key : Key n) :
  decodeFixed b n field (b.encode key) = .ok key := by
  simp [decodeFixed, b.decode_encode, key.2]

lemma tryFrom_persisted (id : Identity) : tryFrom b (persisted b id) = .ok { id with
  certPem := utf8Lossy id.certPem, keyPem := utf8Lossy id.keyPem, refused := false } := by
  have hSome : b.encode id.clientId ≠ "" := by
    apply b.encode_ne
    intro hNil
    have hLength := id.clientId.2
    rw [hNil] at hLength
    cases hLength
  simp only [tryFrom, persisted, decodeFixed_encode, if_neg hSome]
  rfl

/- The certificate is no matter for the other fields. -/
lemma tryFrom_with (hFrom : tryFrom b p = .ok old) (certPem keyPem : Bytes) (issuedAt : UInt64) :
  tryFrom b { p with certPem := certPem, keyPem := keyPem, certIssuedAt := issuedAt } =
    .ok { old with certPem := certPem, keyPem := keyPem, certIssuedAt := issuedAt } := by
  unfold tryFrom at hFrom ⊢
  simp only at hFrom ⊢
  split at hFrom
  next => cases hFrom
  next =>
    split at hFrom
    next => cases hFrom
    next =>
      cases hFrom
      rfl

lemma readToString_valid (hRead : g.read = none) (hValid : (utf8Decode text).isSome) :
  readToString g text = .ok text := by
  simp [readToString, hRead, Option.isSome_iff_ne_none.mp hValid]

lemma readToString_same (hOk : readToString g bytes = .ok text) : text = bytes := by
  unfold readToString at hOk
  split at hOk
  next => cases hOk
  next =>
    split at hOk
    next => cases hOk
    next =>
      cases hOk
      rfl

lemma load_of_text (hText : files path = some text) (hOk : readToString g text = .ok text)
  (hDecode : t.decode text = .ok p) (hFrom : tryFrom b p = .ok id) :
  load b t g path files display = (files, .ok (some id)) := by
  simp [load, hText, hOk, hDecode, hFrom]

/- What is read is understood or moved aside. -/
lemma load_cases (hText : files path = some text) :
  (∃ p id, t.decode text = .ok p ∧ tryFrom b p = .ok id ∧
    load b t g path files display = (files, .ok (some id))) ∨
  (∃ e, readToString g text = .ok text ∧
    load b t g path files display = damaged g path files display e) ∨
  ∃ e, readToString g text = .error e ∧ load b t g path files display = (files, .error e) := by
  cases hRead : readToString g text with
  | error e => exact .inr (.inr ⟨e, rfl, by simp only [load, hText, hRead]⟩)
  | ok read =>
    cases readToString_same hRead
    cases hDecode : t.decode text with
    | error e =>
      exact .inr (.inl ⟨"config parse: " ++ e, rfl, by simp only [load, hText, hRead, hDecode]⟩)
    | ok p =>
      cases hFrom : tryFrom b p with
      | error e =>
        exact .inr (.inl ⟨message e, rfl, by simp only [load, hText, hRead, hDecode, hFrom]⟩)
      | ok id => exact .inl ⟨p, id, rfl, hFrom, load_of_text hText hRead hDecode hFrom⟩

lemma damaged_fst (e : String) :
  (damaged g path files display e).1 = (quarantine g path files).1 := rfl

-- Writes

lemma temporary_ne (pid : List Char) (path : Place) : path ≠ temporary pid path := by
  intro hSame
  have hLength := congrArg (fun place : Place => place.name.length) hSame
  simp [temporary] at hLength
  omega

/- The first call of `write_private` that fails. -/
def Faults.first (f : Faults) (path : Place) : Option String :=
  (if path.dir = "" then none else f.createDir).or (f.openFile.or (f.write.or
    (f.flush.or (f.sync.or (f.permissions.or f.rename)))))

def Written (path : Place) (files : Files) (contents : Bytes) :
  Option String → Files × Except AetherError Unit → Prop
| none, result => result.1 path = some contents ∧ result.2 = .ok ()
| some e, result => result.1 path = files path ∧ result.2 = .error (.io e)

lemma replace_spec (contents : Bytes) : Written path files contents
  (f.openFile.or (f.write.or (f.flush.or (f.sync.or (f.permissions.or f.rename)))))
  (replace f pid path files contents) := by
  have hOther := temporary_ne pid path
  unfold replace
  cases f.openFile with
  | some e => exact ⟨rfl, rfl⟩
  | none =>
    cases f.write with
    | some e => exact ⟨update_of_ne hOther _ _, rfl⟩
    | none =>
      simp only [Option.none_or]
      split
      next hFault =>
        rw [hFault]
        exact ⟨update_of_ne hOther _ _, rfl⟩
      next hFault =>
        rw [hFault]
        exact ⟨update_self .., rfl⟩

lemma writePrivate_spec (contents : Bytes) : Written path files contents (f.first path)
  (writePrivate f pid path files contents) := by
  have hSpec := @replace_spec f pid path files contents
  unfold writePrivate Faults.first
  cases if path.dir = "" then none else f.createDir with
  | some e => exact ⟨rfl, rfl⟩
  | none =>
    simp only [Option.none_or]
    revert hSpec
    cases f.openFile.or (f.write.or (f.flush.or (f.sync.or (f.permissions.or f.rename)))) with
    | none =>
      rintro ⟨hPath, hOk⟩
      split
      next hDone =>
        rw [hDone] at hPath
        exact ⟨hPath, rfl⟩
      next hFailed =>
        rw [hFailed] at hOk
        cases hOk
    | some e =>
      rintro ⟨hPath, hError⟩
      split
      next hDone =>
        rw [hDone] at hError
        cases hError
      next hFailed =>
        rw [hFailed] at hPath hError
        cases hError
        refine ⟨?_, rfl⟩
        simp only
        split
        next => exact hPath
        next =>
          rw [update_of_ne (temporary_ne pid path)]
          exact hPath

lemma encodeAndWrite_cases (p : PersistedIdentity) :
  (f.first path = none ∧ (encodeAndWrite t f pid path files p).2 = .ok () ∧
    ∃ text, t.encode p = .ok text ∧ (encodeAndWrite t f pid path files p).1 path = some text) ∨
  (encodeAndWrite t f pid path files p).2 ≠ .ok () ∧
    (encodeAndWrite t f pid path files p).1 path = files path := by
  unfold encodeAndWrite
  cases hEncode : t.encode p with
  | error => exact .inr ⟨nofun, rfl⟩
  | ok text =>
    have hSpec := @writePrivate_spec f pid path files text
    revert hSpec
    cases f.first path with
    | none =>
      rintro ⟨hPath, hOk⟩
      exact .inl ⟨rfl, hOk, text, rfl, hPath⟩
    | some e =>
      rintro ⟨hPath, hError⟩
      exact .inr ⟨by simp [hError], hPath⟩

lemma encodeAndWrite_done (hDone : (encodeAndWrite t f pid path files p).2 = .ok ()) :
  ∃ text, (encodeAndWrite t f pid path files p).1 path = some text ∧ t.decode text = .ok p ∧
    (utf8Decode text).isSome := by
  rcases encodeAndWrite_cases p with ⟨-, -, text, hEncode, hText⟩ | ⟨hFailed, -⟩
  · exact ⟨text, hText, t.decode_encode p text hEncode⟩
  · exact absurd hDone hFailed

lemma encodeAndWrite_failed (hFailed : f.first path ≠ none ∨
  (encodeAndWrite t f pid path files p).2 ≠ .ok ()) :
  (encodeAndWrite t f pid path files p).1 path = files path := by
  rcases encodeAndWrite_cases p with ⟨hNone, hOk, -⟩ | ⟨-, hPath⟩
  · rcases hFailed with hFault | hError
    · exact absurd hNone hFault
    · exact absurd hOk hError
  · exact hPath

lemma saveMasqueCreds_failed (certPem keyPem : Bytes) (issuedAt : UInt64)
  (hFailed : f.first path ≠ none ∨ f.read ≠ none ∨
    (saveMasqueCreds t f pid path files certPem keyPem issuedAt).2 ≠ .ok ()) :
  (saveMasqueCreds t f pid path files certPem keyPem issuedAt).1 path = files path := by
  unfold saveMasqueCreds at hFailed ⊢
  split
  next => rfl
  next hText =>
    split
    next => rfl
    next hRead =>
      split
      next => rfl
      next hDecode =>
        have hReads : f.read = none := by
          unfold readToString at hRead
          split at hRead
          next => cases hRead
          next hReads => exact hReads
        simp only [hText, hRead, hDecode, hReads, ne_eq, not_true_eq_false, false_or] at hFailed
        exact encodeAndWrite_failed hFailed

-- What Is Promised

section Promises

variable (b t f g pid path files display)

/- What the file holds is no identity. -/
def Damaged (text : Bytes) : Prop :=
  ∀ p id, (utf8Decode text).isSome = true → t.decode text = .ok p → tryFrom b p ≠ .ok id

/- The file stands aside, and no other file has changed. -/
structure Aside (text : Bytes) (files' : Files) : Prop where
  gone : files' path = none
  kept : files' (quarantinePath path) = some text
  others : ∀ place ≠ path, files place ≠ none → files' place = files place

structure Kept : Prop where
  loaded : ∀ id : Identity, let saved := save b t f pid path files id
    (utf8Decode id.certPem).isSome = true → (utf8Decode id.keyPem).isSome = true →
    saved.2 = .ok () →
    load b t g path saved.1 display = (saved.1, .ok (some { id with refused := false }))
  credentials : ∀ certPem keyPem issuedAt old,
    let saved := saveMasqueCreds t f pid path files certPem keyPem issuedAt
    (load b t g path files display).2 = .ok (some old) → saved.2 = .ok () →
    (load b t g path saved.1 display).2 = .ok (some { old with
      certPem := utf8Lossy certPem, keyPem := utf8Lossy keyPem, certIssuedAt := issuedAt })
  unsaved : ∀ id : Identity, let saved := save b t f pid path files id
    f.first path ≠ none ∨ saved.2 ≠ .ok () → saved.1 path = files path
  unchanged : ∀ certPem keyPem issuedAt,
    let saved := saveMasqueCreds t f pid path files certPem keyPem issuedAt
    f.first path ≠ none ∨ f.read ≠ none ∨ saved.2 ≠ .ok () → saved.1 path = files path
  intact : (∀ text, files path = some text → ¬ Damaged b t text) →
    (load b t g path files display).1 = files
  aside : ∀ text, files path = some text → Damaged b t text →
    Aside path files text (load b t g path files display).1

/- A damaged file is a text, it can be renamed, and no other file stands aside already. -/
def Movable : Prop :=
  ∀ text, files path = some text → Damaged b t text →
    (utf8Decode text).isSome = true ∧ g.rename = none ∧
      (files (quarantinePath path) = none ∨ files (quarantinePath path) = some text)

end Promises

lemma quarantinePath_ne (path : Place) : quarantinePath path ≠ path := by
  intro hSame
  have hLength := congrArg (fun place : Place => place.name.length) hSame
  simp [quarantinePath] at hLength

lemma aside_moved_iff (hText : files path = some text) :
  Aside path files text (moved path files) ↔
    files (quarantinePath path) = none ∨ files (quarantinePath path) = some text := by
  have hOther := quarantinePath_ne path
  have hMoved : moved path files (quarantinePath path) = some text := by
    rw [moved, update_self, hText]
  constructor
  · intro hAside
    by_cases hNone : files (quarantinePath path) = none
    · exact .inl hNone
    · exact .inr ((hAside.others _ hOther hNone).symm.trans hMoved)
  · intro hFree
    refine ⟨?_, hMoved, fun place hPlace hSome => ?_⟩
    · rw [moved, update_of_ne hOther.symm, update_self]
    · by_cases hHere : place = quarantinePath path
      · rw [hHere] at hSome ⊢
        exact hMoved.trans (hFree.resolve_left hSome).symm
      · rw [moved, update_of_ne hHere, update_of_ne hPlace]

/- A damaged file is moved if it was read as a text and can be renamed. -/
lemma load_damaged (hRead : g.read = none) (hText : files path = some text)
  (hDamaged : Damaged b t text) :
  (load b t g path files display).1 =
    if (utf8Decode text).isSome ∧ g.rename = none then moved path files else files := by
  rcases @load_cases b t path files text display g hText with
    ⟨p, id, hDecode, hFrom, hSame⟩ | ⟨e, hOk, hSame⟩ | ⟨e, hError, hSame⟩
  · by_cases hValid : (utf8Decode text).isSome = true
    · exact absurd hFrom (hDamaged p id hValid hDecode)
    · rw [hSame, if_neg fun hBoth => hValid hBoth.1]
  · rw [hSame, damaged_fst, quarantine]
    have hValid : (utf8Decode text).isSome = true := by
      by_contra hNot
      have hNone : utf8Decode text = none := by simpa using hNot
      simp [readToString, hRead, hNone] at hOk
    cases hRename : g.rename with
    | none => rw [if_pos ⟨hValid, rfl⟩]
    | some => rw [if_neg nofun]
  · rw [hSame, if_neg]
    rintro ⟨hValid, -⟩
    rw [readToString_valid hRead hValid] at hError
    cases hError

lemma load_intact (hFine : ∀ text, files path = some text → ¬ Damaged b t text) (hRead : g.read = none) :
  (load b t g path files display).1 = files := by
  cases hText : files path with
  | none => simp [load, hText]
  | some text =>
    have hIdentity := hFine text hText
    simp only [Damaged, not_forall, not_not] at hIdentity
    rcases hIdentity with ⟨p, id, hValid, hDecode, hFrom⟩
    rw [load_of_text hText (readToString_valid hRead hValid) hDecode hFrom]

lemma load_save (hRead : g.read = none) (hCert : (utf8Decode id.certPem).isSome = true)
  (hKey : (utf8Decode id.keyPem).isSome = true)
  (hSaved : (save b t f pid path files id).2 = .ok ()) :
  load b t g path (save b t f pid path files id).1 display =
    ((save b t f pid path files id).1, .ok (some { id with refused := false })) := by
  rcases encodeAndWrite_done hSaved with ⟨text, hText, hDecode, hUtf8⟩
  have hFrom := @tryFrom_persisted b id
  rw [utf8Lossy_eq_self_iff.mpr hCert, utf8Lossy_eq_self_iff.mpr hKey] at hFrom
  exact load_of_text hText (readToString_valid hRead hUtf8) hDecode hFrom

lemma load_saveMasqueCreds (hRead : g.read = none) {certPem keyPem : Bytes} {issuedAt : UInt64}
  (hLoad : (load b t g path files display).2 = .ok (some old))
  (hSaved : (saveMasqueCreds t f pid path files certPem keyPem issuedAt).2 = .ok ()) :
  (load b t g path (saveMasqueCreds t f pid path files certPem keyPem issuedAt).1 display).2 =
    .ok (some { old with
      certPem := utf8Lossy certPem, keyPem := utf8Lossy keyPem, certIssuedAt := issuedAt }) := by
  cases hOld : files path with
  | none => simp [load, hOld] at hLoad
  | some text =>
    rcases @load_cases b t path files text display g hOld with
      ⟨p, id, hDecode, hFrom, hSame⟩ | ⟨e, -, hSame⟩ | ⟨e, -, hSame⟩
    · rw [hSame] at hLoad
      cases hLoad
      simp only [saveMasqueCreds, hOld] at hSaved ⊢
      cases hReads : readToString f text with
      | error => simp [hReads] at hSaved
      | ok read =>
        cases readToString_same hReads
        simp only [hReads, hDecode] at hSaved ⊢
        rcases encodeAndWrite_done hSaved with ⟨updated, hText, hUpdated, hUtf8⟩
        rw [load_of_text hText (readToString_valid hRead hUtf8) hUpdated (tryFrom_with hFrom _ _ _)]
    all_goals
      rw [hSame] at hLoad
      cases hLoad

/-
  Identities and new credentials are loaded again and a failed write leaves the file; a damaged
  file is moved aside and no other one touched, if and only if it is movable.
-/
theorem identity_is_kept_iff
    (b : Base64)
    (t : Toml)
    (f g : Faults)
    (pid : List Char)
    (path : Place)
    (files : Files)
    (display : Place → String)
    (hRead : g.read = none) :
    Kept b t f pid path files display g ↔ Movable b t path files g := by
  constructor
  · intro hKept text hText hDamaged
    have hAside := hKept.aside text hText hDamaged
    rw [load_damaged hRead hText hDamaged] at hAside
    split at hAside
    next hBoth => exact ⟨hBoth.1, hBoth.2, (aside_moved_iff hText).mp hAside⟩
    next =>
      have hGone := hAside.gone
      rw [hText] at hGone
      cases hGone
  · intro hMovable
    constructor
    · exact fun id => load_save hRead
    · exact fun certPem keyPem issuedAt old => load_saveMasqueCreds hRead
    · exact fun id => encodeAndWrite_failed
    · exact fun certPem keyPem issuedAt => saveMasqueCreds_failed certPem keyPem issuedAt
    · exact fun hFine => load_intact hFine hRead
    · intro text hText hDamaged
      rcases hMovable text hText hDamaged with ⟨hValid, hRename, hFree⟩
      rw [load_damaged hRead hText hDamaged, if_pos ⟨hValid, hRename⟩]
      exact (aside_moved_iff hText).mpr hFree

def plain64 : Base64 where
  encode bytes := String.ofList ('=' :: bytes.map fun byte => Char.ofNat byte.toNat)
  decode text := .ok (text.toList.tail.map fun c => UInt8.ofNat c.toNat)
  decode_encode := by
    intro bytes
    have hByte : ∀ byte : UInt8, UInt8.ofNat (Char.ofNat byte.toNat).toNat = byte := by
      intro byte
      rw [Char.ofNat, dif_pos (.inl (Nat.lt_trans byte.toNat_lt (by decide)))]
      exact UInt8.ofNat_toNat
    simp only [String.toList_ofList, tail_cons, map_map]
    exact congrArg Except.ok (map_id'' hByte bytes)
  encode_ne := by simp

def sampleIdentity : Identity :=
  ⟨⟨"device", "token", "172.16.0.2", "fd00::2", "", "", "", 0⟩, [65], [66],
    ⟨replicate 32 1, rfl⟩, ⟨replicate 32 2, rfl⟩, ⟨[1, 2, 3], rfl⟩, true⟩

def oneText : Toml where
  encode p := if p = persisted plain64 sampleIdentity then .ok [67] else .error ""
  decode text := if text = [67] then .ok (persisted plain64 sampleIdentity) else .error ""
  decode_encode := by
    intro p text hEncode
    split at hEncode
    next hSame =>
      cases hEncode
      exact ⟨by simp [hSame], by decide⟩
    next => cases hEncode

def noFaults : Faults := ⟨none, none, none, none, none, none, none, none, none, []⟩

def place : Place := ⟨"/data", "aether.toml".toList⟩

/- A damaged text beside other files: all promises are kept for it. -/
theorem damaged_text_is_kept :
    Kept plain64 oneText noFaults [] place (update (fun _ => none) place (some [68]))
      (fun _ => "") noFaults := by
  refine (identity_is_kept_iff _ _ _ _ _ _ _ _ rfl).mpr ?_
  intro text hText _
  rw [update_self] at hText
  cases hText
  refine ⟨by decide, rfl, .inl ?_⟩
  exact update_of_ne (quarantinePath_ne place) _ _

theorem noise_stays :
    ∃ e, load plain64 oneText noFaults place (fun _ => some [0xFF]) (fun _ => "") =
      (fun _ => some [0xFF], .error e) :=
  ⟨.io "stream did not contain valid UTF-8", rfl⟩

end Kourosh.Config
