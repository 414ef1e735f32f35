import Kourosh.Masque.Chunking

/-
  The addresses the edge assigns.

  The body of the CONNECT-IP stream is pushed read by read into the capsule parser, and after each
  data event `drain_capsules` forwards every address of every ADDRESS_ASSIGN capsule.
-/

-- Draining Capsules

namespace Kourosh.Masque

open List

structure AssignedAddr where
  ip : IpAddr
  prefixLen : UInt8

def bytesToIp (version : UInt8) (bytes : Bytes) : Option IpAddr :=
  if version = 4 ∧ bytes.length = 4 then
    some (.v4 ⟨byteAt bytes 0, byteAt bytes 1, byteAt bytes 2, byteAt bytes 3⟩)
  else if version = 6 ∧ bytes.length = 16 then some (.v6 (.ofBytes bytes))
  else none

/- The `for` loop over the addresses of a capsule. -/
def forwarded (addrs : List AssignedAddress) : List AssignedAddr :=
  addrs.filterMap fun a => (bytesToIp a.ipVersion a.address).map fun ip => ⟨ip, a.prefixLen⟩

def Capsule.assigned : Capsule → List AssignedAddr
| .addressAssign addrs => forwarded addrs
| _ => []

namespace CapsuleParser

variable {t : Usize} {capsule : Capsule} {p : CapsuleParser} {rest : Bytes}

/- `drain_capsules`: what goes to the bridge task, and the parser behind it. -/
def drainCapsules (t : Usize) (p : CapsuleParser) : List AssignedAddr × CapsuleParser :=
  match _hNext : p.next t with
  | (.ok (some capsule), p') =>
    let drained := drainCapsules t p'
    (capsule.assigned ++ drained.1, drained.2)
  | (.ok none, p') => ([], p')
  | (.error _, p') => ([], p')
termination_by p.buf.length
decreasing_by exact length_lt_of_next (r := .ok capsule) _hNext

/- The data events of a session: each pushes the reads of its loop over `recv_body` and drains. -/
def assign (t : Usize) (p : CapsuleParser) : List (List Bytes) → List AssignedAddr × CapsuleParser
| [] => ([], p)
| reads :: events =>
  let drained := (reads.foldl push p).drainCapsules t
  let later := assign t drained.2 events
  (drained.1 ++ later.1, later.2)

-- Streams Of Assignments

lemma foldl_push_of_le (p : CapsuleParser)
  (reads : List Bytes) (hFits : p.buf.length + reads.flatten.length ≤ maxCapsuleBuf) :
  reads.foldl push p = p.push reads.flatten := by
  rw [push_of_le hFits]
  induction reads generalizing p with
  | nil => simp
  | cons chunk _ ih =>
    simp only [flatten_cons, length_append] at hFits
    have hPush : p.push chunk = ⟨p.buf ++ chunk⟩ := push_of_le (by omega)
    simp only [foldl_cons, hPush]
    rw [ih _ (by simp only [length_append]; omega)]
    simp

def AllDecode (outcomes : List (Except AetherError Capsule)) : Prop :=
  ∀ r ∈ outcomes, ∃ capsule, r = .ok capsule

def assignedOf (outcomes : List (Except AetherError Capsule)) : List AssignedAddr :=
  outcomes.flatMap fun r =>
    match r with
    | .ok capsule => capsule.assigned
    | .error _ => []

lemma drainCapsules_of_none (hFront : frontCapsule t.cast p.buf = none) :
  p.drainCapsules t = ([], p) := by
  have hNext : p.next t = (.ok none, p) := by rw [next_eq, hFront]
  rw [drainCapsules]
  split
  all_goals simp_all

lemma drainCapsules_of_error
  {e : AetherError} (hFront : frontCapsule t.cast p.buf = some (.error e, rest)) :
  p.drainCapsules t = ([], ⟨rest⟩) := by
  have hNext : p.next t = (.error e, ⟨rest⟩) := by
    rw [next_eq, hFront]
    rfl
  rw [drainCapsules]
  split
  all_goals simp_all

lemma drainCapsules_of_some
  (hFront : frontCapsule t.cast p.buf = some (.ok capsule, rest)) : p.drainCapsules t =
  (capsule.assigned ++ (drainCapsules t ⟨rest⟩).1, (drainCapsules t ⟨rest⟩).2) := by
  have hNext : p.next t = (.ok (some capsule), ⟨rest⟩) := by
    rw [next_eq, hFront]
    rfl
  rw [drainCapsules]
  split
  all_goals simp_all

lemma drainCapsules_of_allDecode (t : Usize) (buf : Bytes) (hDecode : AllDecode (drain t ⟨buf⟩).1) :
  drainCapsules t ⟨buf⟩ = (assignedOf (drain t ⟨buf⟩).1, (drain t ⟨buf⟩).2) := by
  induction buf using (framing t.cast).drain_induction with
  | stop _ hFront =>
    rw [drainCapsules_of_none hFront, drain_eq, (framing t.cast).drain_of_none hFront]
    rfl
  | step buf r rest hFront ih =>
    have hDrain : drain t ⟨buf⟩ = (r :: (drain t ⟨rest⟩).1, (drain t ⟨rest⟩).2) := by
      simp only [drain_eq, (framing t.cast).drain_of_some hFront]
    rw [hDrain] at hDecode ⊢
    rcases hDecode r mem_cons_self with ⟨capsule, rfl⟩
    have hRest := ih fun r hMem => hDecode r (mem_cons_of_mem _ hMem)
    rw [drainCapsules_of_some hFront, hRest]
    rfl

lemma assign_of_allDecode (t : Usize) (p : CapsuleParser)
  (events : List (List Bytes)) (hCap : WithinCap t p (events.map flatten))
  (hDecode : AllDecode (p.receive t (events.map flatten)).1) :
  p.assign t events = (assignedOf (p.receive t (events.map flatten)).1,
  (p.receive t (events.map flatten)).2) := by
  induction events generalizing p with
  | nil => rfl
  | cons reads _ ih =>
    have hFirst : AllDecode ((p.push reads.flatten).drain t).1 :=
      fun r hMem => hDecode r (mem_append_left _ hMem)
    have hDrain := drainCapsules_of_allDecode t (p.push reads.flatten).buf hFirst
    have hLater := ih ((p.push reads.flatten).drain t).2 hCap.2
      fun r hMem => hDecode r (mem_append_right _ hMem)
    simp [assign, foldl_push_of_le p reads hCap.1, hDrain, hLater, receive, assignedOf]

end CapsuleParser

structure AssignCapsule (t : Usize) extends WireCapsule t where
  addrs : List AssignedAddress
  decodes : toWireCapsule.outcome = .ok (.addressAssign addrs)

namespace AssignCapsule

variable {t : Usize}

def encode (c : AssignCapsule t) : Bytes := c.toWireCapsule.encode

end AssignCapsule

def assignedBy {t : Usize} (capsules : List (AssignCapsule t)) :
  List AssignedAddr := capsules.flatMap fun c => forwarded c.addrs

namespace CapsuleParser

/-
  However the stream of the capsules is cut into reads and data events, every address goes to the
  bridge task once and in order.
-/
lemma assign_capsules (t : Usize) (capsules : List (AssignCapsule t)) (events : List (List Bytes))
  (hCut : events.flatten.flatten = (capsules.map AssignCapsule.encode).flatten)
  (hCap : WithinCap t new (events.map flatten)) :
  new.assign t events = (assignedBy capsules, new) := by
  have hReceive : new.receive t (events.map flatten) =
    (capsules.map fun c => .ok (.addressAssign c.addrs), new) := by
    rw [receive_encoded t (capsules.map (·.toWireCapsule)) (events.map flatten) _ hCap]
    · simp [AssignCapsule.decodes]
    · rw [← flatten_flatten, hCut, map_map]
      rfl
  have hDecode : AllDecode (new.receive t (events.map flatten)).1 := by
    rw [hReceive]
    intro r hMem
    rcases mem_map.mp hMem with ⟨c, _, rfl⟩
    exact ⟨_, rfl⟩
  rw [assign_of_allDecode t new events hCap hDecode, hReceive]
  simp only [assignedOf, assignedBy, flatMap_map, Capsule.assigned]

end CapsuleParser

end Kourosh.Masque
