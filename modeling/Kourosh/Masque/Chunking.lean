import Kourosh.Masque.Capsule

/-
  Capsule parsing does not depend on how the stream is cut.

  A capsule on the wire is a kind and a value, each with the width its integer is written in. What
  a value stands for is said by the bytes its entries are written as.

  Main declarations
    * `Entries` : a value that is a list of entries
    * `Decodes` : what a kind and a value stand for
    * `WireCapsule` : a capsule as a sender writes it
    * `CapsuleParser.receive` : the answers for a list of chunks

  Correctness is proven by:
    * `decodes_decodeValue`
    * `CapsuleParser.receive_capsules`
-/

-- What A Value Stands For

namespace Kourosh.Masque

open Octets
open List

/- The length of an address of an IP version. -/
def HasAddressLength (ipVersion : UInt8) (len : Nat) : Prop :=
  (ipVersion = 4 ∧ len = 4) ∨ (ipVersion = 6 ∧ len = 16)

/- The bytes of an address entry, with its request id in any width. -/
def AssignedAddress.Written (entry : AssignedAddress) (bytes : Bytes) : Prop :=
  HasAddressLength entry.ipVersion entry.address.length ∧
  ∃ w : VarintWidth, entry.requestId < w.bound ∧
    bytes = varintBytes w entry.requestId ++
      (entry.ipVersion :: (entry.address ++ [entry.prefixLen]))

/- The bytes of a route. -/
def RouteAdvertisement.Written (entry : RouteAdvertisement) (bytes : Bytes) : Prop :=
  HasAddressLength entry.ipVersion entry.start.length ∧
  HasAddressLength entry.ipVersion entry.stop.length ∧
  bytes = entry.ipVersion :: (entry.start ++ (entry.stop ++ [entry.protocol]))

/- A value that is a list of entries, one behind the other. -/
inductive Entries {α : Type} (written : α → Bytes → Prop) : List α → Bytes → Prop
| nil : Entries written [] []
| cons (hEntry : written entry bytes) (hRest : Entries written entries value) :
  Entries written (entry :: entries) (bytes ++ value)

/- What a capsule of a kind and a value stands for; a malformed value is an error. -/
inductive Decodes : Nat → Bytes → Except AetherError Capsule → Prop
| addressAssign (hValue : Entries AssignedAddress.Written addrs value) :
  Decodes capsuleAddressAssign value (.ok (.addressAssign addrs))
| badAssign (hBad : ∀ addrs, ¬ Entries AssignedAddress.Written addrs value) (text : String) :
  Decodes capsuleAddressAssign value (.error (.capsule text))
| addressRequest (value : Bytes) :
  Decodes capsuleAddressRequest value (.ok .addressRequest)
| routeAdvertisement (hValue : Entries RouteAdvertisement.Written routes value) :
  Decodes capsuleRouteAdvertisement value (.ok (.routeAdvertisement routes))
| badRoute (hBad : ∀ routes, ¬ Entries RouteAdvertisement.Written routes value) (text : String) :
  Decodes capsuleRouteAdvertisement value (.error (.capsule text))
| datagram (value : Bytes) :
  Decodes capsuleDatagram value (.ok (.datagram value))
| unknown (hKind : kind ∉ [capsuleAddressAssign, capsuleAddressRequest, capsuleRouteAdvertisement,
    capsuleDatagram]) (value : Bytes) :
  Decodes kind value (.ok (.unknown kind value))

lemma addrLen_eq_ok_iff {ipVersion : UInt8} {len : Nat} :
    addrLen ipVersion = .ok len ↔ HasAddressLength ipVersion len := by
  unfold addrLen HasAddressLength
  by_cases hFour : ipVersion = 4
  · simp [hFour, eq_comm]
  · by_cases hSix : ipVersion = 6
    · simp [hSix, eq_comm]
    · simp [hFour, hSix]

section Entries

variable {α : Type} {read : Octets → Except AetherError (α × Octets)}
variable {hRead : ∀ {b b' : Octets} {entry : α}, read b = .ok (entry, b') → b'.cap < b.cap}
variable {written : α → Bytes → Prop}

/- A reader of entries that reads exactly what is written reads exactly the lists of entries. -/
lemma readEntries_eq_ok_iff
    (hExact : ∀ b entry b',
      (∃ off, read b = .ok (entry, ⟨b', off⟩)) ↔ ∃ front, written entry front ∧ b.rest = front ++ b')
    (b : Octets)
    (out result : List α) :
    readEntries read hRead b out = .ok result ↔
      ∃ entries, Entries written entries b.rest ∧ result = out ++ entries := by
  constructor
  · intro hOk
    fun_induction readEntries read hRead b out with
    | case1 b out hCap =>
      cases hOk
      refine ⟨[], ?_, (append_nil _).symm⟩
      rw [length_eq_zero_iff.mp hCap]
      exact .nil
    | case2 => cases hOk
    | case3 b out _ entry b' hEntry ih =>
      rcases (hExact b entry b'.rest).mp ⟨b'.off, hEntry⟩ with ⟨front, hFront, hRest⟩
      rcases ih hOk with ⟨entries, hEntries, rfl⟩
      exact ⟨entry :: entries, hRest ▸ .cons hFront hEntries, by simp⟩
  · rintro ⟨entries, hEntries, rfl⟩
    rcases b with ⟨rest, off⟩
    simp only at hEntries
    induction hEntries generalizing out off with
    | nil => rw [readEntries_of_empty out rfl, append_nil]
    | cons hEntry _ ih =>
      rcases (hExact ⟨_, off⟩ _ _).mpr ⟨_, hEntry, rfl⟩ with ⟨off', hFirst⟩
      rw [readEntries_of_ok out hFirst, ih]
      simp

end Entries

lemma getU8_eq_some_iff {b : Octets} {byte : UInt8} {b' : Octets} :
    b.getU8 = some (byte, b') ↔ b.rest = byte :: b'.rest ∧ b'.off = b.off + 1 := by
  rcases b with ⟨rest, off⟩
  rcases b' with ⟨rest', off'⟩
  cases rest with
  | nil => simp [getU8]
  | cons first rest =>
    simp only [getU8, Option.some.injEq, Prod.mk.injEq, Octets.mk.injEq, cons.injEq]
    constructor
    · rintro ⟨rfl, rfl, rfl⟩
      exact ⟨⟨rfl, rfl⟩, rfl⟩
    · rintro ⟨⟨rfl, rfl⟩, rfl⟩
      exact ⟨rfl, rfl, rfl⟩

lemma getBytes_eq_some_iff {b : Octets} {len : Nat} {bytes : Bytes} {b' : Octets} :
    b.getBytes len = some (bytes, b') ↔
      b.rest = bytes ++ b'.rest ∧ bytes.length = len ∧ b'.off = b.off + len := by
  rcases b with ⟨rest, off⟩
  rcases b' with ⟨rest', off'⟩
  constructor
  · intro hRead
    unfold getBytes at hRead
    split at hRead
    · cases hRead
    next hCap =>
      cases hRead
      exact ⟨(take_append_drop len rest).symm, length_take_of_le (Nat.not_lt.mp hCap), rfl⟩
  · rintro ⟨hRest, rfl, hOff⟩
    simp only at hRest hOff
    subst hRest hOff
    simp [getBytes]

lemma readAssignedAddress_eq_ok_iff (b : Octets) (entry : AssignedAddress) (rest : Bytes) :
    (∃ off, readAssignedAddress b = .ok (entry, ⟨rest, off⟩)) ↔
      ∃ front, entry.Written front ∧ b.rest = front ++ rest := by
  simp only [readAssignedAddress, bind_eq_ok, orOct_eq_ok, Prod.exists, addrLen_eq_ok_iff,
    getU8_eq_some_iff, getBytes_eq_some_iff]
  constructor
  · rintro ⟨off, id, b₁, hId, version, b₂, ⟨h₂, -⟩, len, hLen, address, b₃, ⟨h₃, rfl, -⟩,
      prefixLen, b₄, ⟨h₄, -⟩, hEntry⟩
    cases hEntry
    rcases exists_varintBytes hId with ⟨w, hBound, h₁⟩
    refine ⟨_, ⟨hLen, w, hBound, rfl⟩, ?_⟩
    simp [h₁, h₂, h₃, h₄]
  · rintro ⟨front, ⟨hLen, w, hBound, rfl⟩, hRest⟩
    rcases b with ⟨bytes, off⟩
    simp only at hRest
    have hId := getVarint_varintBytes w hBound
      (entry.ipVersion :: (entry.address ++ [entry.prefixLen]) ++ rest) off
    rw [← append_assoc, ← hRest] at hId
    exact ⟨_, _, _, hId, _, ⟨_, off + w.bytes + 1⟩, ⟨rfl, rfl⟩, _, hLen, _, ⟨_, _⟩,
      ⟨append_assoc _ _ _, rfl, rfl⟩, _, ⟨_, _⟩, ⟨rfl, rfl⟩, rfl⟩

lemma readRouteAdvertisement_eq_ok_iff (b : Octets) (entry : RouteAdvertisement) (rest : Bytes) :
    (∃ off, readRouteAdvertisement b = .ok (entry, ⟨rest, off⟩)) ↔
      ∃ front, entry.Written front ∧ b.rest = front ++ rest := by
  simp only [readRouteAdvertisement, bind_eq_ok, orOct_eq_ok, Prod.exists, addrLen_eq_ok_iff,
    getU8_eq_some_iff, getBytes_eq_some_iff]
  constructor
  · rintro ⟨off, version, b₁, ⟨h₁, -⟩, len, hLen, start, b₂, ⟨h₂, hStart, -⟩,
      stop, b₃, ⟨h₃, hStop, -⟩, protocol, b₄, ⟨h₄, -⟩, hEntry⟩
    cases hEntry
    refine ⟨_, ⟨hStart ▸ hLen, hStop ▸ hLen, rfl⟩, ?_⟩
    simp [h₁, h₂, h₃, h₄]
  · rintro ⟨front, ⟨hStart, hStop, rfl⟩, hRest⟩
    -- both addresses have the length of the version
    have hSame : entry.stop.length = entry.start.length := by
      rcases hStart with hStart | hStart <;> rcases hStop with hStop | hStop
      · omega
      · exact absurd (hStart.1.symm.trans hStop.1) (by decide)
      · exact absurd (hStart.1.symm.trans hStop.1) (by decide)
      · omega
    rcases b with ⟨bytes, off⟩
    simp only at hRest
    subst hRest
    exact ⟨_, _, ⟨_, _⟩, ⟨rfl, rfl⟩, _, hStart, _, ⟨_, _⟩, ⟨append_assoc _ _ _, rfl, rfl⟩,
      _, ⟨_, _⟩, ⟨append_assoc _ _ _, hSame, rfl⟩, _, ⟨_, _⟩, ⟨rfl, rfl⟩, rfl⟩

lemma parseAddressAssign_eq_ok_iff {value : Bytes} {addrs : List AssignedAddress} :
    parseAddressAssign value = .ok addrs ↔ Entries AssignedAddress.Written addrs value := by
  rw [parseAddressAssign, readEntries_eq_ok_iff readAssignedAddress_eq_ok_iff]
  simp [withSlice]

lemma parseRouteAdvertisement_eq_ok_iff {value : Bytes} {routes : List RouteAdvertisement} :
    parseRouteAdvertisement value = .ok routes ↔
      Entries RouteAdvertisement.Written routes value := by
  rw [parseRouteAdvertisement, readEntries_eq_ok_iff readRouteAdvertisement_eq_ok_iff]
  simp [withSlice]

section Errors

/- Every error of the decoders is a capsule error. -/
def IsCapsuleError {α : Type} (r : Except AetherError α) : Prop :=
  ∀ e, r = .error e → ∃ text, e = .capsule text

lemma isCapsuleError_orOct {α : Type} (read : Option α) : IsCapsuleError (orOct read) := by
  intro e hError
  cases read with
  | some => cases hError
  | none =>
    cases hError
    exact ⟨_, rfl⟩

lemma isCapsuleError_addrLen (ipVersion : UInt8) : IsCapsuleError (addrLen ipVersion) := by
  intro e hError
  unfold addrLen at hError
  split at hError
  · cases hError
  · split at hError
    · cases hError
    · cases hError
      exact ⟨_, rfl⟩

lemma IsCapsuleError.bind {α β : Type} {x : Except AetherError α} {f : α → Except AetherError β}
    (hFirst : IsCapsuleError x) (hRest : ∀ a, IsCapsuleError (f a)) : IsCapsuleError (x >>= f) := by
  intro e hError
  cases x with
  | error =>
    cases hError
    exact hFirst e rfl
  | ok a => exact hRest a e hError

lemma isCapsuleError_readEntries {α : Type} {read : Octets → Except AetherError (α × Octets)}
    {hRead : ∀ {b b' : Octets} {entry : α}, read b = .ok (entry, b') → b'.cap < b.cap}
    (hError : ∀ b, IsCapsuleError (read b)) (b : Octets) (out : List α) :
    IsCapsuleError (readEntries read hRead b out) := by
  fun_induction readEntries read hRead b out with
  | case1 => exact nofun
  | case2 b _ _ e hEntry =>
    rintro _ hSame
    cases hSame
    exact hError b e hEntry
  | case3 _ _ _ _ _ _ ih => exact ih

lemma isCapsuleError_parseAddressAssign (value : Bytes) :
    IsCapsuleError (parseAddressAssign value) := by
  refine isCapsuleError_readEntries (fun b => ?_) _ _
  refine (isCapsuleError_orOct _).bind fun _ => (isCapsuleError_orOct _).bind fun _ =>
    (isCapsuleError_addrLen _).bind fun _ => (isCapsuleError_orOct _).bind fun _ =>
    (isCapsuleError_orOct _).bind fun _ => nofun

lemma isCapsuleError_parseRouteAdvertisement (value : Bytes) :
    IsCapsuleError (parseRouteAdvertisement value) := by
  refine isCapsuleError_readEntries (fun b => ?_) _ _
  refine (isCapsuleError_orOct _).bind fun _ => (isCapsuleError_addrLen _).bind fun _ =>
    (isCapsuleError_orOct _).bind fun _ => (isCapsuleError_orOct _).bind fun _ =>
    (isCapsuleError_orOct _).bind fun _ => nofun

end Errors

/- The decoder gives what a kind and a value stand for. -/
lemma decodes_decodeValue (kind : Nat) (value : Bytes) :
    Decodes kind value (decodeValue kind value) := by
  unfold decodeValue
  split
  next hKind =>
    subst hKind
    cases hParse : parseAddressAssign value with
    | ok addrs => exact .addressAssign (parseAddressAssign_eq_ok_iff.mp hParse)
    | error e =>
      rcases isCapsuleError_parseAddressAssign value e hParse with ⟨text, rfl⟩
      refine .badAssign (fun addrs hValue => ?_) text
      cases hParse.symm.trans (parseAddressAssign_eq_ok_iff.mpr hValue)
  next hAssign =>
    split
    next hKind => exact hKind ▸ .addressRequest value
    next hRequest =>
      split
      next hKind =>
        subst hKind
        cases hParse : parseRouteAdvertisement value with
        | ok routes => exact .routeAdvertisement (parseRouteAdvertisement_eq_ok_iff.mp hParse)
        | error e =>
          rcases isCapsuleError_parseRouteAdvertisement value e hParse with ⟨text, rfl⟩
          refine .badRoute (fun routes hValue => ?_) text
          cases hParse.symm.trans (parseRouteAdvertisement_eq_ok_iff.mpr hValue)
      next hRoute =>
        split
        next hKind => exact hKind ▸ .datagram value
        next hDatagram => exact .unknown (by simp [*]) value

end Kourosh.Masque

-- Capsules On The Wire

namespace Kourosh.Masque

open List

/- A capsule as a sender writes it. -/
structure WireCapsule (t : Usize) where
  kind : Nat
  kindWidth : VarintWidth
  value : Bytes
  lenWidth : VarintWidth
  kind_lt : kind < kindWidth.bound
  length_lt : value.length < lenWidth.bound
  value_fits : value.length < 2 ^ t.bits

namespace WireCapsule

variable {t : Usize}

def encode (c : WireCapsule t) : Bytes := varintBytes c.kindWidth c.kind ++
  (varintBytes c.lenWidth c.value.length ++ c.value)

/- What the parser answers for the capsule. -/
def outcome (c : WireCapsule t) : Except AetherError Capsule := decodeValue c.kind c.value

variable (c : WireCapsule t)

lemma frontCapsule_encode
  (len : Nat → Nat) (hLen : len c.value.length = c.value.length) (rest : Bytes) :
  CapsuleParser.frontCapsule len (c.encode ++ rest) = some (c.outcome, rest) := by
  have hKind := Octets.getVarint_varintBytes c.kindWidth c.kind_lt
    (varintBytes c.lenWidth c.value.length ++ (c.value ++ rest)) 0
  have hLength :=
    Octets.getVarint_varintBytes c.lenWidth c.length_lt (c.value ++ rest) (0 + c.kindWidth.bytes)
  have hValue : Octets.getBytes ⟨c.value ++ rest,
    0 + c.kindWidth.bytes + c.lenWidth.bytes⟩ (len c.value.length) =
    some (c.value, ⟨rest, 0 + c.kindWidth.bytes + c.lenWidth.bytes + c.value.length⟩) := by
    simp [Octets.getBytes, Octets.cap, hLen]
  simp only [CapsuleParser.frontCapsule,
    CapsuleParser.takeCapsule, Octets.andThen, Octets.withSlice, encode, append_assoc,
    hKind, hLength, hValue, Option.bind_some, Option.map_some, Option.some.injEq, Prod.mk.injEq]
  refine ⟨rfl, ?_⟩
  -- the offset counts both integers and the value
  have hSize : (varintBytes c.kindWidth c.kind ++ (varintBytes c.lenWidth c.value.length ++
    c.value)).length = 0 + c.kindWidth.bytes + c.lenWidth.bytes + c.value.length := by
    simp
    omega
  rw [← hSize]
  simp only [← append_assoc, drop_left]

lemma frontCapsule_encode_cast (rest : Bytes) :
  CapsuleParser.frontCapsule t.cast (c.encode ++ rest) = some (c.outcome, rest) :=
  c.frontCapsule_encode t.cast (t.cast_of_lt c.value_fits) rest

end WireCapsule

-- Receiving Chunks

namespace CapsuleParser

variable {t : Usize} {p p' : CapsuleParser}

/- A call that answers takes bytes off the buffer. -/
lemma length_lt_of_next {r : Except AetherError Capsule} (hNext : p.next t = (r.map some, p')) :
    p'.buf.length < p.buf.length := by
  rw [next_eq] at hNext
  cases hFront : frontCapsule t.cast p.buf with
  | none =>
    rw [hFront] at hNext
    cases r <;> cases hNext
  | some answer =>
    have hLt := (framing t.cast).length_lt_of_next hFront
    rw [hFront] at hNext
    rw [← (Prod.mk.inj hNext).2]
    exact hLt

/- Call `next` until it returns `Ok(None)`. -/
def drain (t : Usize) (p : CapsuleParser) : List (Except AetherError Capsule) × CapsuleParser :=
  match _hNext : p.next t with
  | (.ok none, p') => ([], p')
  | (.ok (some capsule), p') => (.ok capsule :: (drain t p').1, (drain t p').2)
  | (.error e, p') => (.error e :: (drain t p').1, (drain t p').2)
termination_by p.buf.length
decreasing_by
  all_goals first
    | exact length_lt_of_next (r := .ok capsule) _hNext
    | exact length_lt_of_next (r := .error e) _hNext

/- The calls of `next` take the frames of the buffer one by one. -/
lemma drain_eq (t : Usize) (buf : Bytes) :
    drain t ⟨buf⟩ = (((framing t.cast).drain buf).1, ⟨((framing t.cast).drain buf).2⟩) := by
  induction buf using (framing t.cast).drain_induction with
  | stop buf hFront =>
    have hNext : next t ⟨buf⟩ = (.ok none, ⟨buf⟩) := by
      rw [next_eq]
      simp only [show frontCapsule t.cast buf = none from hFront]
    rw [(framing t.cast).drain_of_none hFront, drain]
    split
    all_goals simp_all
  | step buf r rest hFront ih =>
    have hNext : next t ⟨buf⟩ = (r.map some, ⟨rest⟩) := by
      rw [next_eq]
      simp only [show frontCapsule t.cast buf = some (r, rest) from hFront]
    rw [(framing t.cast).drain_of_some hFront, drain]
    cases r with
    | error | ok =>
      split
      all_goals simp_all [Except.map]

/- Push each chunk and drain. -/
def receive (t : Usize) (p : CapsuleParser) :
  List Bytes → List (Except AetherError Capsule) × CapsuleParser
| [] => ([], p)
| chunk :: chunks =>
  let drained := (p.push chunk).drain t
  let received := receive t drained.2 chunks
  (drained.1 ++ received.1, received.2)

def WithinCap (t : Usize) (p : CapsuleParser) : List Bytes → Prop
| [] => True
| chunk :: chunks =>
  p.buf.length + chunk.length ≤ maxCapsuleBuf ∧ WithinCap t ((p.push chunk).drain t).2 chunks

section

variable (t : Usize) (p : CapsuleParser)

variable (chunks : List Bytes)

lemma receive_eq_feed (hCap : WithinCap t p chunks) : p.receive t chunks =
  (((framing t.cast).feed p.buf chunks).1, ⟨((framing t.cast).feed p.buf chunks).2⟩) := by
  induction chunks generalizing p with
  | nil => rfl
  | cons _ _ ih =>
    have hPush := push_of_le hCap.1
    have hRest := ih _ hCap.2
    simp only [receive, Framing.feed, hRest]
    simp only [hPush, drain_eq]

lemma withinCap_of_length_le
  (hFits : p.buf.length + chunks.flatten.length ≤ maxCapsuleBuf) : WithinCap t p chunks := by
  induction chunks generalizing p with
  | nil => trivial
  | cons chunk _ ih =>
    simp only [flatten_cons, length_append] at hFits
    refine ⟨by omega, ih _ ?_⟩
    have hDrain := (framing t.cast).length_drain_le (p.buf ++ chunk)
    rw [push_of_le (by omega)]
    simp only [drain_eq, length_append] at hDrain ⊢
    omega

end

lemma receive_encoded (t : Usize) (capsules : List (WireCapsule t))
  (chunks : List Bytes) (hCut : chunks.flatten = (capsules.map WireCapsule.encode).flatten)
  (hCap : WithinCap t new chunks) :
  new.receive t chunks = (capsules.map WireCapsule.outcome, new) := by
  have hFeed := (framing t.cast).feed_eq_drain_flatten [] chunks (framing t.cast).next_nil
  have hDrain := (framing t.cast).drain_flatten_encode
    WireCapsule.encode WireCapsule.outcome WireCapsule.frontCapsule_encode_cast capsules
  rw [receive_eq_feed t new chunks hCap]
  simp [new, hFeed, hCut, hDrain]

/-
  Chunking does not matter: however the encoding of a list of capsules is cut, the parser reports
  what each capsule stands for once and in order, stands behind each capsule it has answered, also
  behind a malformed one, and ends with an empty buffer.
-/
theorem receive_capsules
    (t : Usize)
    (capsules : List (WireCapsule t))
    (chunks : List Bytes)
    (hCut : chunks.flatten = (capsules.map WireCapsule.encode).flatten)
    (hCap : WithinCap t new chunks) :
    new.receive t chunks = (capsules.map WireCapsule.outcome, new) ∧
    ∀ c ∈ capsules,
      Decodes c.kind c.value c.outcome ∧
      ∀ rest, next t ⟨c.encode ++ rest⟩ = (c.outcome.map some, ⟨rest⟩) := by
  refine ⟨receive_encoded t capsules chunks hCut hCap, fun c _ => ⟨?_, fun rest => ?_⟩⟩
  · exact decodes_decodeValue c.kind c.value
  · rw [next_eq, c.frontCapsule_encode_cast]

/-
  An assignment with a bad version, its kind in two bytes, and a datagram with its length in four.
-/
def badThenDatagram : List (WireCapsule .w32) :=
  [⟨capsuleAddressAssign, .two, [1, 5], .one, by decide, by decide, by decide⟩,
    ⟨capsuleDatagram, .one, [0x45], .four, by decide, by decide, by decide⟩]

/- Both kinds of capsule, cut inside every field. -/
theorem receive_capsules_badThenDatagram : new.receive .w32
  [[0x40], [0x01, 0x02, 1], [5, 0x00, 0x80, 0], [0, 1], [0x45]] =
  ([.error (.capsule "bad ip version 5"), .ok (.datagram [0x45])], new) := by
  have hReceive := (receive_capsules .w32 badThenDatagram
    [[0x40], [0x01, 0x02, 1], [5, 0x00, 0x80, 0], [0, 1], [0x45]]
    (by decide)
    (withinCap_of_length_le _ _ _ (by decide))).1
  have hBad : parseAddressAssign [1, 5] = .error (.capsule "bad ip version 5") :=
    readEntries_of_error [] (by decide) rfl
  rw [hReceive]
  simp [badThenDatagram, WireCapsule.outcome, decodeValue, hBad, capsuleAddressAssign,
    capsuleAddressRequest, capsuleRouteAdvertisement, capsuleDatagram, Except.map]

end CapsuleParser

end Kourosh.Masque
