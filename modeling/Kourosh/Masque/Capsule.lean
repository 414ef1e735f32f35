import Kourosh.Basic
import Kourosh.Lib.Octets
import Kourosh.Lib.Framing

/-
  The capsule layer of CONNECT-IP.

  A capsule is a kind, a length and a value.
-/

-- Capsules

namespace Kourosh.Masque

open Octets

def capsuleAddressAssign : Nat := 0x01
def capsuleAddressRequest : Nat := 0x02
def capsuleRouteAdvertisement : Nat := 0x03
def capsuleDatagram : Nat := 0x00

structure AssignedAddress where
  requestId : Nat
  ipVersion : UInt8
  address : Bytes
  prefixLen : UInt8

structure RouteAdvertisement where
  ipVersion : UInt8
  start : Bytes
  stop : Bytes
  protocol : UInt8

inductive Capsule where
  | addressAssign (addrs : List AssignedAddress)
  | addressRequest
  | datagram (payload : Bytes)
  | routeAdvertisement (routes : List RouteAdvertisement)
  | unknown (kind : Nat) (payload : Bytes)

-- Decoding A Value

def oct : AetherError := .capsule "BufferTooShortError"

/- `map_err(oct)?` on a cursor read. -/
def orOct {α : Type} : Option α → Except AetherError α
| none => .error oct
| some v => .ok v

def addrLen (ipVersion : UInt8) : Except AetherError Nat :=
  if ipVersion = 4 then .ok 4
  else if ipVersion = 6 then .ok 16
  else .error (.capsule s!"bad ip version {ipVersion}")

def readAssignedAddress (b : Octets) : Except AetherError (AssignedAddress × Octets) := do
  let (requestId, b) ← orOct b.getVarint
  let (ipVersion, b) ← orOct b.getU8
  let len ← addrLen ipVersion
  let (address, b) ← orOct (b.getBytes len)
  let (prefixLen, b) ← orOct b.getU8
  return ({ requestId, ipVersion, address, prefixLen }, b)

def readRouteAdvertisement (b : Octets) : Except AetherError (RouteAdvertisement × Octets) := do
  let (ipVersion, b) ← orOct b.getU8
  let len ← addrLen ipVersion
  let (start, b) ← orOct (b.getBytes len)
  let (stop, b) ← orOct (b.getBytes len)
  let (protocol, b) ← orOct b.getU8
  return ({ ipVersion, start, stop, protocol }, b)

lemma orOct_eq_ok {α : Type} {read : Option α} {v : α} : orOct read = .ok v ↔ read = some v := by
  cases read <;> simp [orOct]

lemma bind_eq_ok {ε α β : Type} {x : Except ε α}
  {f : α → Except ε β} {r : β} : x >>= f = .ok r ↔ ∃ a, x = .ok a ∧ f a = .ok r := by
  cases x <;> simp [bind, Except.bind]

variable {b b' : Octets}

lemma cap_lt_of_readAssignedAddress {entry : AssignedAddress}
  (hRead : readAssignedAddress b = .ok (entry, b')) : b'.cap < b.cap := by
  simp only [readAssignedAddress, bind_eq_ok, orOct_eq_ok, Prod.exists] at hRead
  rcases hRead with ⟨_, b₁, h₁, _, b₂, h₂, _, -, _, b₃, h₃, _, b₄, h₄, hEq⟩
  cases hEq
  have hLe₁ := getVarint_reads.cap_le h₁
  have hLt₂ := cap_lt_of_getU8 h₂
  have hLe₃ := (getBytes_reads _).cap_le h₃
  have hLt₄ := cap_lt_of_getU8 h₄
  omega

lemma cap_lt_of_readRouteAdvertisement {entry : RouteAdvertisement}
  (hRead : readRouteAdvertisement b = .ok (entry, b')) : b'.cap < b.cap := by
  simp only [readRouteAdvertisement, bind_eq_ok, orOct_eq_ok, Prod.exists] at hRead
  rcases hRead with ⟨_, b₁, h₁, _, -, _, b₂, h₂, _, b₃, h₃, _, b₄, h₄, hEq⟩
  cases hEq
  have hLt₁ := cap_lt_of_getU8 h₁
  have hLe₂ := (getBytes_reads _).cap_le h₂
  have hLe₃ := (getBytes_reads _).cap_le h₃
  have hLt₄ := cap_lt_of_getU8 h₄
  omega

/-
  The loop of both list decoders: read entries while bytes are left, and stop at the first entry
  that does not read.
-/
def readEntries {α : Type} (read : Octets → Except AetherError (α × Octets))
  (hRead : ∀ {b b' : Octets} {entry : α}, read b = .ok (entry, b') → b'.cap < b.cap)
  (b : Octets) (out : List α) : Except AetherError (List α) :=
  if b.cap = 0 then .ok out
  else
    match _hEntry : read b with
    | .error e => .error e
    | .ok (entry, b') => readEntries read hRead b' (out ++ [entry])
termination_by b.cap
decreasing_by exact hRead _hEntry

section Entries

variable {α : Type} {read : Octets → Except AetherError (α × Octets)}
variable {hRead : ∀ {b b' : Octets} {entry : α}, read b = .ok (entry, b') → b'.cap < b.cap}

lemma readEntries_of_empty (out : List α) (hCap : b.cap = 0) :
  readEntries read hRead b out = .ok out := by rw [readEntries, if_pos hCap]

lemma readEntries_of_error {e : AetherError} (out : List α) (hCap : b.cap ≠ 0)
  (hEntry : read b = .error e) : readEntries read hRead b out = .error e := by
  rw [readEntries, if_neg hCap]
  split
  all_goals simp_all

lemma readEntries_of_ok {entry : α} (out : List α) (hEntry : read b = .ok (entry, b')) :
  readEntries read hRead b out = readEntries read hRead b' (out ++ [entry]) := by
  have hLt := hRead hEntry
  rw [readEntries, if_neg (by omega)]
  split
  · simp_all
  next hOther =>
    rw [hEntry] at hOther
    cases hOther
    rfl

end Entries

def parseAddressAssign (value : Bytes) : Except AetherError (List AssignedAddress) :=
  readEntries readAssignedAddress cap_lt_of_readAssignedAddress (.withSlice value) []

def parseRouteAdvertisement (value : Bytes) : Except AetherError (List RouteAdvertisement) :=
  readEntries readRouteAdvertisement cap_lt_of_readRouteAdvertisement (.withSlice value) []

/- The `match kind` of `CapsuleParser::next`. -/
def decodeValue (kind : Nat) (value : Bytes) : Except AetherError Capsule :=
  if kind = capsuleAddressAssign then (parseAddressAssign value).map .addressAssign
  else if kind = capsuleAddressRequest then .ok .addressRequest
  else if kind = capsuleRouteAdvertisement then
    (parseRouteAdvertisement value).map .routeAdvertisement
  else if kind = capsuleDatagram then .ok (.datagram value)
  else .ok (.unknown kind value)

-- The Parser

structure CapsuleParser where
  buf : Bytes

def maxCapsuleBuf : Nat := 256 * 1024

namespace CapsuleParser

def new : CapsuleParser where
  buf := []

def push (p : CapsuleParser) (data : Bytes) : CapsuleParser :=
  if p.buf.length + data.length > maxCapsuleBuf then ⟨[]⟩ else ⟨p.buf ++ data⟩

def next (t : Usize) (p : CapsuleParser) : Except AetherError (Option Capsule) × CapsuleParser :=
  match (Octets.withSlice p.buf).getVarint with
  | none => (.ok none, p)
  | some (kind, b) =>
    match b.getVarint with
    | none => (.ok none, p)
    | some (v, b) =>
      let len := t.cast v
      if b.cap < len then (.ok none, p)
      else
        match b.getBytes len with
        | none => (.error oct, p)
        | some (value, b) =>
          -- drained before the value is decoded
          ((decodeValue kind value).map some, ⟨p.buf.drop b.off⟩)

variable {p : CapsuleParser} {data : Bytes}

lemma push_of_le (hFits : p.buf.length + data.length ≤ maxCapsuleBuf) :
  p.push data = ⟨p.buf ++ data⟩ := by rw [push, if_neg (by omega)]

lemma push_of_gt (hOver : maxCapsuleBuf < p.buf.length + data.length) : p.push data = ⟨[]⟩ := by
  rw [push, if_pos (by omega)]

-- The Parser As A Framing

/- Take kind, length and value off the front, where `len` is what becomes of the length field. -/
def takeCapsule (len : Nat → Nat) : Octets → Option ((Nat × Bytes) × Octets) :=
  Octets.andThen Octets.getVarint fun kind =>
    Octets.andThen Octets.getVarint fun v =>
      Octets.andThen (fun b => b.getBytes (len v)) fun value b => some ((kind, value), b)

lemma takeCapsule_reads (len : Nat → Nat) : Octets.Reads (takeCapsule len) := by
  apply getVarint_reads.andThen
  intro kind
  apply getVarint_reads.andThen
  intro v
  apply (getBytes_reads (len v)).andThen
  intro value
  exact Octets.Reads.pure (kind, value)

def frontCapsule (len : Nat → Nat) (buf : Bytes) : Option (Except AetherError Capsule × Bytes) :=
  (takeCapsule len (.withSlice buf)).map fun front =>
    (decodeValue front.1.1 front.1.2, buf.drop front.2.off)

def framing (len : Nat → Nat) : Framing UInt8 (Except AetherError Capsule) where
  next := frontCapsule len
  next_frame := by
    intro buf rest r hTake
    rcases Option.map_eq_some_iff.mp hTake with ⟨⟨⟨kind, value⟩, b⟩, hCapsule, hAnswer⟩
    cases hAnswer
    rcases takeCapsule_reads len _ _ _ hCapsule with ⟨front, hFront, hOff, hMore⟩
    simp only [Octets.withSlice, Nat.zero_add] at hFront hOff
    refine ⟨front, ?_, ?_, ?_⟩
    · rintro rfl
      -- an empty front would read from no bytes at all
      have hEmpty := hMore [] 0
      simp [takeCapsule, Octets.andThen, Octets.getVarint] at hEmpty
    · rw [hOff, hFront, List.drop_left]
    · intro more
      have hAgain := hMore more 0
      simp [frontCapsule, Octets.withSlice, hAgain]

/- `next` takes a whole capsule off its buffer or leaves it alone. -/
lemma next_eq (t : Usize) (p : CapsuleParser) : p.next t = match frontCapsule t.cast p.buf with
  | none => (.ok none, p)
  | some (r, rest) => (r.map some, ⟨rest⟩) := by
  simp only [next, frontCapsule, takeCapsule, andThen]
  cases hKind : (withSlice p.buf).getVarint with
  | none => rfl
  | some kind =>
    simp only [Option.bind_some]
    cases hLen : kind.2.getVarint with
    | none => rfl
    | some v =>
      simp only [Option.bind_some]
      by_cases hCap : v.2.cap < t.cast v.1
      all_goals simp [getBytes, hCap]

end CapsuleParser

end Kourosh.Masque
