import Kourosh.Lib.Run
import Kourosh.Masque.Chunking

/-
  Staying in step with the capsule stream.

  The reference parse reads the whole received stream from its first byte and knows neither a
  buffer limit nor the width of `usize`.

  Correctness is proven by:
    * `returned_sublist_referenceParse`
-/

-- The Reference Parse

namespace Kourosh.Masque

open Run CapsuleParser
open List

def reference : Framing UInt8 (Except AetherError Capsule) := CapsuleParser.framing id

def referenceParse (stream : Bytes) : List (Except AetherError Capsule) :=
  (reference.drain stream).1

def AtBoundary (stream : Bytes) : Prop := (reference.drain stream).2 = []

def LengthKept (t : Usize) (buf : Bytes) : Prop :=
  ∀ kind b v b', (Octets.withSlice buf).getVarint = some (kind, b) →
    b.getVarint = some (v, b') → t.cast v ≤ b'.cap → t.cast v = v

lemma frontCapsule_cast {t : Usize} {buf : Bytes} (hKept : LengthKept t buf) :
  frontCapsule t.cast buf = frontCapsule id buf := by
  simp only [frontCapsule, takeCapsule, Octets.andThen]
  cases hKind : (Octets.withSlice buf).getVarint with
  | none => rfl
  | some kind =>
    simp only [Option.bind_some]
    cases hLen : kind.2.getVarint with
    | none => rfl
    | some v =>
      have hCut := hKept kind.1 kind.2 v.1 v.2 hKind hLen
      simp only [Option.bind_some, id_eq]
      by_cases hCap : t.cast v.1 ≤ v.2.cap
      · rw [hCut hCap]
      · have hLe : t.cast v.1 ≤ v.1 := Nat.mod_le _ _
        have hShort : v.2.cap < t.cast v.1 := by omega
        have hShort' : v.2.cap < v.1 := by omega
        simp [Octets.getBytes, hShort, hShort']

-- Sessions

inductive Call where
  | push (data : Bytes)
  | next

/-
  A parser with the history of its stream: all bytes that were pushed, kept or not, and all
  capsules handed out.
-/
structure Session where
  parser : CapsuleParser
  received : Bytes
  returned : List Capsule

namespace Session

def new : Session where
  parser := .new
  received := []
  returned := []

def step (t : Usize) (s : Session) : Call → Option Session
| .push data =>
  some { s with parser := s.parser.push data, received := s.received ++ data }
| .next =>
  match s.parser.next t with
  | (.ok (some capsule), p) =>
    some { s with parser := p, returned := s.returned ++ [capsule] }
  | (.ok none, p) => some { s with parser := p }
  | (.error _, p) => some { s with parser := p }

/-
  A push that hits the limit ends on a capsule boundary, and a call takes no capsule whose length
  field was cut.
-/
def KeepsStep (t : Usize) (s : Session) : Call → Prop
| .push data => maxCapsuleBuf < s.parser.buf.length + data.length → AtBoundary (s.received ++ data)
| .next => LengthKept t s.parser.buf

/-
  The buffer starts at a capsule boundary of the stream, and what was handed out stands before
  that boundary.
-/
def InStep (s : Session) : Prop := ∃ front done,
  s.received = front ++ s.parser.buf ∧ reference.drain front = (done, []) ∧
    (s.returned.map Except.ok).Sublist done

lemma inStep_new : InStep new := ⟨[], [], rfl, reference.drain_nil, List.Sublist.refl _⟩

variable {s : Session} {piece : Bytes}

lemma inStep_push {data : Bytes} (hStep : InStep s)
  (hLimit : maxCapsuleBuf < s.parser.buf.length + data.length → AtBoundary (s.received ++ data)) :
  InStep { s with parser := s.parser.push data, received := s.received ++ data } := by
  rcases hStep with ⟨front, done, hReceived, hFront, hReturned⟩
  by_cases hOver : maxCapsuleBuf < s.parser.buf.length + data.length
  · -- the dropped bytes were whole capsules
    have hEnd := hLimit hOver
    refine ⟨s.received ++ data, (reference.drain (s.received ++ data)).1, ?_, ?_, ?_⟩
    · simp [CapsuleParser.push_of_gt hOver]
    · exact Prod.ext rfl hEnd
    · have hMore := reference.drain_front_append hFront (s.parser.buf ++ data)
      rw [hReceived, append_assoc, hMore]
      exact hReturned.trans (sublist_append_left _ _)
  · refine ⟨front, done, ?_, hFront, hReturned⟩
    rw [CapsuleParser.push_of_le (by omega)]
    simp [hReceived]

lemma inStep_take {r : Except AetherError Capsule} {rest : Bytes} {returned : List Capsule}
  (hStep : InStep s) (hNext : reference.next s.parser.buf = some (r, rest))
  (hReturned : (returned.map Except.ok).Sublist (s.returned.map Except.ok ++ [r])) :
  InStep { s with parser := ⟨rest⟩, returned := returned } := by
  rcases hStep with ⟨front, done, hReceived, hFront, hDone⟩
  rcases reference.drain_front_snoc hFront hNext with ⟨frame, hBuf, hDrain⟩
  refine ⟨front ++ frame, done ++ [r], ?_, hDrain, ?_⟩
  · rw [hReceived, hBuf, append_assoc]
  · exact hReturned.trans (hDone.append (List.Sublist.refl _))

lemma inStep_step {t : Usize} {s' : Session} {call : Call} (hInStep : InStep s)
  (hKeeps : KeepsStep t s call) (hStep : step t s call = some s') : InStep s' := by
  cases call with
  | push =>
    cases hStep
    exact inStep_push hInStep hKeeps
  | next =>
    have hFront := frontCapsule_cast hKeeps
    simp only [step, next_eq, hFront] at hStep
    cases hTake : frontCapsule id s.parser.buf with
    | none =>
      simp only [hTake] at hStep
      cases hStep
      exact hInStep
    | some answer =>
      rcases answer with ⟨r, rest⟩
      have hNext : reference.next s.parser.buf = some (r, rest) := hTake
      simp only [hTake] at hStep
      cases r with
      | ok =>
        cases hStep
        exact inStep_take hInStep hNext (by simp)
      | error =>
        cases hStep
        exact inStep_take hInStep hNext (sublist_append_left _ _)

lemma InStep.atBoundary
  (hInStep : InStep s) : ∃ front, s.received = front ++ s.parser.buf ∧ AtBoundary front := by
  rcases hInStep with ⟨front, done, hReceived, hFront, -⟩
  refine ⟨front, hReceived, ?_⟩
  rw [AtBoundary, hFront]

lemma InStep.returned_sublist (hInStep : InStep s) :
  (s.returned.map Except.ok).Sublist (referenceParse s.received) := by
  rcases hInStep with ⟨front, done, hReceived, hFront, hReturned⟩
  rw [referenceParse, hReceived, reference.drain_front_append hFront]
  exact hReturned.trans (sublist_append_left _ _)

/-
  Synchronisation: in every run whose pushes and calls keep in step, the capsules handed out are
  capsules of the reference parse of everything received, in its order, and the next header is
  read where a capsule of it ends.
-/
theorem returned_sublist_referenceParse
    (t : Usize)
    (s : Session)
    (hRun : Reaches (step t) (KeepsStep t) new s) :
    (s.returned.map Except.ok).Sublist (referenceParse s.received) ∧
    (∀ capsule ∈ s.returned, Except.ok capsule ∈ referenceParse s.received) ∧
    ∃ front, s.received = front ++ s.parser.buf ∧ AtBoundary front := by
  have hInStep : InStep s := hRun.invariant inStep_new inStep_step
  refine ⟨hInStep.returned_sublist, ?_, hInStep.atBoundary⟩
  intro capsule hCapsule
  exact hInStep.returned_sublist.subset (mem_map_of_mem hCapsule)

lemma lengthKept_w64 (buf : Bytes) : LengthKept .w64 buf := by
  intro kind b v b' _ hLen _
  have hLt := Octets.getVarint_lt hLen
  exact Usize.w64.cast_of_lt (by
    simp only [Usize.bits]
    omega)

/- A run that takes a datagram keeps in step. -/
theorem returned_sublist_referenceParse_datagram :
  ∃ s, Reaches (step .w64) (KeepsStep .w64) new s ∧ s.returned = [.datagram [0x45]] ∧
  (s.returned.map Except.ok).Sublist (referenceParse s.received) := by
  have hExec : exec (step .w64) new [.push [0, 1, 0x45], .next] =
    some ⟨⟨[]⟩, [0, 1, 0x45], [.datagram [0x45]]⟩ := rfl
  have hRun := Reaches.of_exec (.start : Reaches _ (KeepsStep .w64) _ _) hExec
    ⟨fun hOver => by simp [new, CapsuleParser.new, maxCapsuleBuf] at hOver,
      fun s' _ => ⟨lengthKept_w64 _, fun _ _ => trivial⟩⟩
  exact ⟨_, hRun, rfl, (returned_sublist_referenceParse .w64 _ hRun).1⟩

-- A Forged Assignment

def longHeader : Bytes := [0x00, 0x80, 0x04, 0x00, 0x05]

def forgedAssign : WireCapsule .w64 where
  kind := capsuleAddressAssign
  kindWidth := .one
  value := [1, 4, 10, 0, 0, 1, 32]
  lenWidth := .one
  kind_lt := by decide
  length_lt := by decide
  value_fits := by decide

def forgedCapsule : Capsule :=
  .addressAssign [ { requestId := 1, ipVersion := 4, address := [10, 0, 0, 1], prefixLen := 32 }]

lemma outcome_forgedAssign : forgedAssign.outcome = .ok forgedCapsule := by
  have hParse : parseAddressAssign [1, 4, 10, 0, 0, 1, 32] = .ok
    [{ requestId := 1, ipVersion := 4, address := [10, 0, 0, 1], prefixLen := 32 }] := by
    rw [parseAddressAssign, readEntries_of_ok [] rfl]
    exact readEntries_of_empty _ rfl
  simp [WireCapsule.outcome, forgedAssign, decodeValue, hParse, Except.map, forgedCapsule]

def forgedPayload (piece : Bytes) : Bytes :=
  piece ++ (piece ++ (piece ++ (piece ++ forgedAssign.encode)))

def forgedCalls (piece : Bytes) : List Call :=
  [.push longHeader,
    .push piece, .push piece, .push piece, .push piece, .push forgedAssign.encode, .next]

lemma exec_forgedCalls (hPiece : piece.length = 65535) :
  exec (step .w64) new (forgedCalls piece) = some
    { parser := ⟨[]⟩
      received := longHeader ++ forgedPayload piece
      returned := [forgedCapsule] } := by
  have hHeader : longHeader.length = 5 := rfl
  have hTake := forgedAssign.frontCapsule_encode_cast []
  have hFits :
    ∀ buf : Bytes, buf.length ≤ 131075 → push ⟨buf⟩ piece = ⟨buf ++ piece⟩ := by
    intro buf hBuf
    apply push_of_le
    simp only [hPiece, maxCapsuleBuf]
    omega
  have hOver : push ⟨longHeader ++ (piece ++ (piece ++ piece))⟩ piece = ⟨[]⟩ := by
    apply push_of_gt
    simp [hPiece, hHeader, maxCapsuleBuf]
  have hFirst : CapsuleParser.new.push longHeader = ⟨longHeader⟩ := rfl
  have hLast : push ⟨[]⟩ forgedAssign.encode = ⟨forgedAssign.encode⟩ := rfl
  simp only [append_nil] at hTake
  simp [exec, forgedCalls, step, new, hFirst, hFits, hOver, hLast,
    hPiece, hHeader, next_eq, hTake, outcome_forgedAssign, Except.map, forgedPayload]

lemma referenceParse_forgedPayload (hPiece : piece.length = 65535) : referenceParse
  (longHeader ++ forgedPayload piece) = [.ok (.datagram (forgedPayload piece))] := by
  have hLength : (forgedPayload piece).length = 262149 := by
    have hEnd : forgedAssign.encode.length = 9 := rfl
    simp [forgedPayload, hPiece, hEnd]
  let datagram : WireCapsule .w64 :=
    { kind := capsuleDatagram
      kindWidth := .one
      value := forgedPayload piece
      lenWidth := .four
      kind_lt := by decide
      length_lt := by rw [hLength]; decide
      value_fits := by rw [hLength]; decide }
  have hEncode : longHeader ++ forgedPayload piece = datagram.encode := by
    simp only [WireCapsule.encode, datagram, hLength]
    rfl
  have hNext : reference.next (longHeader ++ forgedPayload piece) =
    some (.ok (.datagram (forgedPayload piece)), []) := by
    have hFront := datagram.frontCapsule_encode id rfl []
    rw [append_nil] at hFront
    rw [hEncode]
    exact hFront
  rw [referenceParse, reference.drain_of_some hNext]
  simp

/- Without the condition a gateway-carried packet forges an assignment. -/
theorem forged_addressAssign : ¬ ∀ (t : Usize) (s : Session), Reaches (step t) Always new s →
  ∀ capsule ∈ s.returned, Except.ok capsule ∈ referenceParse s.received := by
  intro hAll
  obtain ⟨piece, hPiece⟩ : ∃ piece : Bytes, piece.length = 65535 :=
    ⟨replicate 65535 0, length_replicate⟩
  have hRun := Reaches.start.of_exec (exec_forgedCalls hPiece) (taken_always _ _ _)
  have hMem := hAll .w64 _ hRun forgedCapsule (by simp)
  rw [referenceParse_forgedPayload hPiece] at hMem
  simp [forgedCapsule] at hMem

end Session

end Kourosh.Masque
