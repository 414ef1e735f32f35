import Kourosh.Lib.Run
import Kourosh.Masque.Assignment
import Kourosh.Masque.Datagram

/-
  What a bad capsule leaves unread.

  After each data event both transports call the parser until it has no whole capsule left.

  Main declarations
    * `Capsule.due` : what a capsule asks for
    * `Transport.handle` : one turn of the loop of a transport
    * `CapsuleParser.drainInto` : the loop
    * `Intake` : a stream with its parser and what was handed over
    * `Intake.UpToDate`, `Intake.StopsLast`, `Intake.NothingLost`

  Correctness is proven by:
    * `CapsuleParser.drainInto_h3`
    * `Intake.up_to_date_iff_nothing_lost`
-/

-- The Two Loops

namespace Kourosh.Masque

open Run WireCapsule CapsuleParser
open List

inductive Transport where
  | h3
  | h2

/- What a loop hands to a channel by `try_send`. -/
inductive Effect where
  | address (addr : AssignedAddr)
  | packet (pkt : Bytes)

/- The address of an entry: the version says how its bytes are read. -/
def AssignedAddress.assigned (a : AssignedAddress) : AssignedAddr where
  ip :=
    if a.ipVersion = 4 then
      .v4 ⟨byteAt a.address 0, byteAt a.address 1, byteAt a.address 2, byteAt a.address 3⟩
    else .v6 (.ofBytes a.address)
  prefixLen := a.prefixLen

/-
  What a well-formed capsule asks for, whatever the transport: every address of an ADDRESS_ASSIGN
  is to be assigned, and the packet of a DATAGRAM is to be delivered.
-/
def Capsule.due : Capsule → List Effect
| .addressAssign addrs => addrs.map fun a => .address a.assigned
| .datagram payload => (stripDatagramContext payload).toList.map .packet
| _ => []

/- A malformed capsule asks for nothing. -/
def due : Except AetherError Capsule → List Effect
| .ok capsule => capsule.due
| .error _ => []

/- The decoder lets no address through that `bytes_to_ip` would drop. -/
lemma forwarded_of_entries
    {addrs : List AssignedAddress}
    {value : Bytes}
    (hEntries : Entries AssignedAddress.Written addrs value) :
    forwarded addrs = addrs.map AssignedAddress.assigned := by
  induction hEntries with
  | nil => rfl
  | @cons entry _ entries _ hEntry _ ih =>
    have hIp : (bytesToIp entry.ipVersion entry.address).map
        (fun ip => (⟨ip, entry.prefixLen⟩ : AssignedAddr)) = some entry.assigned := by
      rcases hEntry.1 with ⟨hVersion, hLength⟩ | ⟨hVersion, hLength⟩ <;>
        simp [bytesToIp, AssignedAddress.assigned, hVersion, hLength]
    rw [forwarded, filterMap_cons, hIp, map_cons]
    exact congrArg _ ih

namespace Transport

/- What a loop does with a capsule; that of HTTP/3 has no arm for datagrams. -/
def effects : Transport → Capsule → List Effect
| _, .addressAssign addrs => (forwarded addrs).map .address
| .h2, .datagram payload => (stripDatagramContext payload).toList.map .packet
| _, _ => []

/- One turn of a loop, and whether there is another. -/
def handle (transport : Transport)
  (closed : List Effect → Bool) (out : List Effect) (capsule : Capsule) : List Effect × Bool :=
  let out' := out ++ transport.effects capsule
  match transport, capsule with
  | .h2, .datagram payload => (out', (stripDatagramContext payload).isNone || !closed out')
  | _, _ => (out', true)

def handleAnswer (transport : Transport) (closed : List Effect → Bool)
  (out : List Effect) : Except AetherError Capsule → List Effect × Bool
| .ok capsule => transport.handle closed out capsule
| .error _ => (out, false)

/- What a loop hands over for an answer of the parser. -/
def handed (transport : Transport) : Except AetherError Capsule → List Effect
| .ok capsule => transport.effects capsule
| .error _ => []

/- The answer is a datagram with a packet in it. -/
def HasPacket (r : Except AetherError Capsule) : Prop :=
  ∃ payload packet, r = .ok (.datagram payload) ∧ stripDatagramContext payload = some packet

variable (transport : Transport) (closed : List Effect → Bool) (out : List Effect)

lemma handle_fst (capsule : Capsule) :
  (transport.handle closed out capsule).1 = out ++ transport.effects capsule := by
  cases transport with
  | h3 => rfl
  | h2 =>
    cases capsule <;> rfl

lemma handleAnswer_fst (r : Except AetherError Capsule) :
  (transport.handleAnswer closed out r).1 = out ++ transport.handed r := by
  cases r with
  | error => exact (append_nil out).symm
  | ok capsule => exact transport.handle_fst closed out capsule

lemma foldl_handleAnswer
  (outcomes : List (Except AetherError Capsule)) : outcomes.foldl (fun out r =>
  (transport.handleAnswer closed out r).1) out = out ++ outcomes.flatMap transport.handed := by
  induction outcomes generalizing out with
  | nil => exact (append_nil out).symm
  | cons _ _ ih => rw [foldl_cons, handleAnswer_fst, ih, flatMap_cons, append_assoc]

/- A loop hands over what is due, except that over HTTP/3 it passes over packets. -/
lemma handed_iff
    {kind : Nat}
    {value : Bytes}
    {r : Except AetherError Capsule}
    (hDecodes : Decodes kind value r) :
    (transport = .h3 ∧ HasPacket r ∧ transport.handed r = [] ∧ due r ≠ []) ∨
    (¬ (transport = .h3 ∧ HasPacket r) ∧ transport.handed r = due r) := by
  cases hDecodes with
  | addressAssign hValue =>
    refine .inr ⟨?_, ?_⟩
    · rintro ⟨-, _, _, hDatagram, -⟩
      cases hDatagram
    · have hEffects := congrArg (map Effect.address) (forwarded_of_entries hValue)
      rw [map_map] at hEffects
      cases transport <;> exact hEffects
  | datagram =>
    cases hPacket : stripDatagramContext value with
    | none =>
      refine .inr ⟨?_, ?_⟩
      · rintro ⟨-, _, _, hDatagram, hSome⟩
        cases hDatagram
        cases hPacket.symm.trans hSome
      · cases transport <;> simp [handed, due, effects, Capsule.due, hPacket]
    | some packet =>
      have hHas : HasPacket (.ok (.datagram value)) := ⟨value, packet, rfl, hPacket⟩
      cases transport with
      | h3 => exact .inl ⟨rfl, hHas, rfl, by simp [due, Capsule.due, hPacket]⟩
      | h2 => exact .inr ⟨nofun, rfl⟩
  | badAssign | addressRequest | routeAdvertisement | badRoute | unknown =>
    refine .inr ⟨?_, ?_⟩
    · rintro ⟨-, _, _, hDatagram, -⟩
      cases hDatagram
    · cases transport <;> rfl

/- All that is due is handed over exactly if no packet is passed over. -/
lemma flatMap_handed_eq_iff
    {outcomes : List (Except AetherError Capsule)}
    (hDecodes : ∀ r ∈ outcomes, ∃ kind value, Decodes kind value r) :
    outcomes.flatMap transport.handed = outcomes.flatMap due ↔
      (transport = .h3 → ∀ r ∈ outcomes, ¬ HasPacket r) := by
  have hLe : ∀ rs : List (Except AetherError Capsule), (∀ r ∈ rs, ∃ kind value,
      Decodes kind value r) → (rs.flatMap transport.handed).length ≤ (rs.flatMap due).length := by
    intro rs hAll
    induction rs with
    | nil => exact Nat.le_refl _
    | cons r rs ih =>
      have hRest := ih fun r' hMem => hAll r' (mem_cons_of_mem r hMem)
      rcases hAll r mem_cons_self with ⟨kind, value, hFirst⟩
      simp only [flatMap_cons, length_append]
      rcases transport.handed_iff hFirst with ⟨-, -, hNone, -⟩ | ⟨-, hSame⟩
      · simp only [hNone, length_nil]
        omega
      · rw [hSame]
        omega
  constructor
  · intro hSame hTransport r hMem hPacket
    induction outcomes with
    | nil => cases hMem
    | cons first rest ih =>
      have hRest : ∀ r' ∈ rest, ∃ kind value, Decodes kind value r' :=
        fun r' hIn => hDecodes r' (mem_cons_of_mem first hIn)
      rcases hDecodes first mem_cons_self with ⟨kind, value, hFirst⟩
      rw [flatMap_cons, flatMap_cons] at hSame
      rcases transport.handed_iff hFirst with ⟨-, -, hNone, hDue⟩ | ⟨hNot, hEq⟩
      · -- what is missing for the first capsule is not made up for by the others
        have hLength := congrArg List.length hSame
        have hPos := length_pos_iff.mpr hDue
        have hShort := hLe rest hRest
        simp only [hNone, nil_append, length_append] at hLength
        omega
      · rcases mem_cons.mp hMem with rfl | hMem
        · exact hNot ⟨hTransport, hPacket⟩
        · rw [hEq] at hSame
          exact ih hRest (append_cancel_left hSame) hMem
  · intro hNone
    apply flatMap_congr
    intro r hMem
    rcases hDecodes r hMem with ⟨kind, value, hFirst⟩
    rcases transport.handed_iff hFirst with ⟨hTransport, hPacket, -⟩ | ⟨-, hSame⟩
    · exact absurd hPacket (hNone hTransport r hMem)
    · exact hSame

end Transport

namespace CapsuleParser

/- `drain_capsules` of either transport. -/
def drainInto (t : Usize) (transport : Transport) (closed : List Effect → Bool)
  (out : List Effect) (p : CapsuleParser) : List Effect × CapsuleParser :=
  match _hNext : p.next t with
  | (.ok (some capsule), p') =>
    let turn := transport.handle closed out capsule
    if turn.2 then drainInto t transport closed turn.1 p'
    else (turn.1, p')
  | (.ok none, p') => (out, p')
  | (.error _, p') => (out, p')
termination_by p.buf.length
decreasing_by exact length_lt_of_next (r := .ok capsule) _hNext

variable {t : Usize} {transport : Transport} {closed : List Effect → Bool}

variable {buf rest : Bytes}

variable (out : List Effect)

lemma drainInto_of_none (hFront : frontCapsule t.cast buf = none) :
  drainInto t transport closed out ⟨buf⟩ = (out, ⟨buf⟩) := by
  have hNext : next t ⟨buf⟩ = (.ok none, ⟨buf⟩) := by
    rw [next_eq]
    simp only [hFront]
  rw [drainInto]
  split
  all_goals simp_all

lemma drainInto_of_error
  {e : AetherError} (hFront : frontCapsule t.cast buf = some (.error e, rest)) :
  drainInto t transport closed out ⟨buf⟩ = (out, ⟨rest⟩) := by
  have hNext : next t ⟨buf⟩ = (.error e, ⟨rest⟩) := by
    rw [next_eq]
    simp only [hFront, Except.map]
  rw [drainInto]
  split
  all_goals simp_all

lemma drainInto_of_ok {capsule : Capsule}
  (hFront : frontCapsule t.cast buf = some (.ok capsule, rest)) :
  drainInto t transport closed out ⟨buf⟩ = if (transport.handle closed out capsule).2 then
    drainInto t transport closed (transport.handle closed out capsule).1 ⟨rest⟩
    else ((transport.handle closed out capsule).1, ⟨rest⟩) := by
  have hNext : next t ⟨buf⟩ = (.ok (some capsule), ⟨rest⟩) := by
    rw [next_eq]
    simp only [hFront, Except.map]
  rw [drainInto]
  split
  all_goals simp_all

lemma drainInto_eq_loop (buf : Bytes) : drainInto t transport closed out
  ⟨buf⟩ = (((framing t.cast).loop (transport.handleAnswer closed) out buf).1,
  ⟨((framing t.cast).loop (transport.handleAnswer closed) out buf).2⟩) := by
  induction buf using (framing t.cast).drain_induction generalizing out with
  | stop _ hFront => rw [drainInto_of_none out hFront, (framing t.cast).loop_of_none out hFront]
  | step _ r _ hFront ih =>
    rw [(framing t.cast).loop_of_some out hFront]
    cases r with
    | error =>
      rw [drainInto_of_error out hFront]
      rfl
    | ok capsule =>
      have hSame :
        transport.handleAnswer closed out (.ok capsule) = transport.handle closed out capsule := rfl
      rw [drainInto_of_ok out hFront, hSame]
      cases hMore : (transport.handle closed out capsule).2 with
      | true => exact ih _
      | false => rfl

def addressOf : Effect → Option AssignedAddr
| .address addr => some addr
| .packet _ => none

/- While packets are taken, both loops assign the same addresses and stop at the same byte. -/
theorem drainInto_h3
    (transport : Transport)
    (buf : Bytes) :
    (drainInto t transport (fun _ => false) out ⟨buf⟩).map (filterMap addressOf) id =
      (out.filterMap addressOf ++ (drainCapsules t ⟨buf⟩).1, (drainCapsules t ⟨buf⟩).2) := by
  induction buf using (framing t.cast).drain_induction generalizing out with
  | stop _ hFront =>
    rw [drainInto_of_none out hFront, drainCapsules_of_none hFront]
    simp
  | step _ r _ hFront ih =>
    cases r with
    | error =>
      rw [drainInto_of_error out hFront, drainCapsules_of_error hFront]
      simp
    | ok capsule =>
      have hAddresses : (transport.effects capsule).filterMap addressOf = capsule.assigned := by
        have hSome : addressOf ∘ .address = some := rfl
        cases transport <;> cases capsule <;>
          simp [Transport.effects, Capsule.assigned, hSome, addressOf]
      have hMore : (transport.handle (fun _ => false) out capsule).2 := by
        cases transport <;> cases capsule <;> simp [Transport.handle]
      rw [drainInto_of_ok out hFront, if_pos hMore, Transport.handle_fst,
        ih, drainCapsules_of_some hFront, filterMap_append, hAddresses, append_assoc]

end CapsuleParser

-- Data Events

structure Intake where
  parser : CapsuleParser
  received : Bytes
  out : List Effect

namespace Intake

def new : Intake where
  parser := .new
  received := []
  out := []

variable (t : Usize) (transport : Transport) (closed : List Effect → Bool)

def step (s : Intake) (reads : List Bytes) : Option Intake :=
  if s.parser.buf.length + reads.flatten.length ≤ maxCapsuleBuf then
    let drained := (reads.foldl CapsuleParser.push s.parser).drainInto t transport closed s.out
    some { parser := drained.2, received := s.received ++ reads.flatten, out := drained.1 }
  else none

def outcomes (received : Bytes) : List (Except AetherError Capsule) :=
  ((CapsuleParser.framing t.cast).drain received).1

/-
  No whole capsule is left in the buffer, and what is due for the capsules received so far was
  handed over.
-/
def UpToDate (s : Intake) : Prop :=
  CapsuleParser.frontCapsule t.cast s.parser.buf = none ∧
    s.out = (outcomes t s.received).flatMap due

/-
  A capsule at which the loop ends is the last whole one in the buffer: one that does not decode,
  and over HTTP/2 a packet for a closed queue.
-/
def StopsLast (s : Intake) (reads : List Bytes) : Prop :=
  Framing.RunsOut (transport.handleAnswer closed) s.out
    (outcomes t (s.parser.buf ++ reads.flatten))

/-
  The condition on a data event within the limit of the buffer: the loop ends at the last whole
  capsule, and over HTTP/3 no capsule with a packet comes in.
-/
def NothingLost (s : Intake) (reads : List Bytes) : Prop :=
  s.parser.buf.length + reads.flatten.length ≤ maxCapsuleBuf →
    s.StopsLast t transport closed reads ∧
    (transport = .h3 →
      ∀ r ∈ outcomes t (s.parser.buf ++ reads.flatten), ¬ Transport.HasPacket r)

variable {t transport closed}

variable {s : Intake} {reads : List Bytes}

lemma step_eq (hFits : s.parser.buf.length + reads.flatten.length ≤ maxCapsuleBuf) :
  step t transport closed s reads = some
    { parser := ⟨((framing t.cast).loop
          (transport.handleAnswer closed) s.out (s.parser.buf ++ reads.flatten)).2⟩
      received := s.received ++ reads.flatten
      out := ((framing t.cast).loop (transport.handleAnswer closed) s.out
        (s.parser.buf ++ reads.flatten)).1 } := by
  rw [step, if_pos hFits, foldl_push_of_le s.parser reads hFits,
    push_of_le hFits, drainInto_eq_loop]

/- Every answer of the parser is what some kind and value stand for. -/
lemma decodes_of_mem_outcomes
    {received : Bytes}
    {r : Except AetherError Capsule}
    (hMem : r ∈ outcomes t received) :
    ∃ kind value, Decodes kind value r := by
  unfold outcomes at hMem
  induction received using (framing t.cast).drain_induction with
  | stop _ hFront =>
    rw [(framing t.cast).drain_of_none hFront] at hMem
    cases hMem
  | step _ first _ hFront ih =>
    rw [(framing t.cast).drain_of_some hFront] at hMem
    rcases mem_cons.mp hMem with rfl | hMem
    · rcases Option.map_eq_some_iff.mp hFront with ⟨front, -, hAnswer⟩
      cases hAnswer
      exact ⟨_, _, decodes_decodeValue _ _⟩
    · exact ih hMem

/- The buffer holds the bytes behind the last whole capsule of the stream. -/
def InStep (t : Usize) (s : Intake) : Prop :=
  s.UpToDate t ∧ ((CapsuleParser.framing t.cast).drain s.received).2 = s.parser.buf

lemma inStep_new : InStep t new := by
  have hEmpty := (framing t.cast).drain_nil
  refine ⟨⟨(framing t.cast).next_nil, ?_⟩, ?_⟩
  · rw [outcomes, new, hEmpty]
    rfl
  · rw [new, hEmpty]
    rfl

/- The state behind an event that lets the loop run to the end. -/
lemma step_of_stopsLast
    (hStep : InStep t s)
    (hFits : s.parser.buf.length + reads.flatten.length ≤ maxCapsuleBuf)
    (hStops : s.StopsLast t transport closed reads) :
    ∃ s', step t transport closed s reads = some s' ∧
      CapsuleParser.frontCapsule t.cast s'.parser.buf = none ∧
      ((CapsuleParser.framing t.cast).drain s'.received).2 = s'.parser.buf ∧
      s'.out = s.out ++
        (outcomes t (s.parser.buf ++ reads.flatten)).flatMap transport.handed ∧
      (outcomes t s'.received).flatMap due =
        s.out ++ (outcomes t (s.parser.buf ++ reads.flatten)).flatMap due := by
  rcases hStep with ⟨⟨-, hOut⟩, hTail⟩
  have hLoop := (framing t.cast).loop_of_runsOut hStops
  have hAppend := (framing t.cast).drain_append s.received reads.flatten
  rw [hTail] at hAppend
  refine ⟨_, step_eq hFits, ?_, ?_, ?_, ?_⟩
  · rw [hLoop]
    exact (framing t.cast).next_drain_eq_none _
  · rw [hLoop, hAppend]
  · rw [hLoop, Transport.foldl_handleAnswer]
    rfl
  · simp only [outcomes, hAppend, flatMap_append]
    rw [hOut]
    rfl

lemma inStep_step
    {s' : Intake}
    (hStep : InStep t s)
    (hKept : NothingLost t transport closed s reads)
    (hNext : step t transport closed s reads = some s') :
    InStep t s' := by
  by_cases hFits : s.parser.buf.length + reads.flatten.length ≤ maxCapsuleBuf
  · rcases hKept hFits with ⟨hStops, hPackets⟩
    rcases step_of_stopsLast hStep hFits hStops with ⟨_, hOther, hNone, hTail, hOut, hDue⟩
    cases hNext.symm.trans hOther
    refine ⟨⟨hNone, ?_⟩, hTail⟩
    rw [hOut, hDue, (transport.flatMap_handed_eq_iff fun _ => decodes_of_mem_outcomes).mpr hPackets]
  · rw [step, if_neg hFits] at hNext
    cases hNext

lemma not_upToDate_of_not_stopsLast
    (hFits : s.parser.buf.length + reads.flatten.length ≤ maxCapsuleBuf)
    (hStops : ¬ s.StopsLast t transport closed reads) :
    ∃ s', step t transport closed s reads = some s' ∧ ¬ s'.UpToDate t := by
  refine ⟨_, step_eq hFits, fun hCurrent => ?_⟩
  exact hStops (((framing t.cast).next_loop_eq_none_iff s.out _).mp hCurrent.1)

/- An event that loses something leads to a state that is not up to date. -/
lemma not_upToDate_step
    (hStep : InStep t s)
    (hLost : ¬ NothingLost t transport closed s reads) :
    ∃ s', step t transport closed s reads = some s' ∧ ¬ s'.UpToDate t := by
  rw [NothingLost, Classical.not_imp] at hLost
  rcases hLost with ⟨hFits, hLost⟩
  by_cases hStops : s.StopsLast t transport closed reads
  · rcases step_of_stopsLast hStep hFits hStops with ⟨s', hNext, -, -, hOut, hDue⟩
    refine ⟨s', hNext, fun hCurrent => hLost ⟨hStops, ?_⟩⟩
    have hSame := hOut.symm.trans (hCurrent.2.trans hDue)
    exact (transport.flatMap_handed_eq_iff fun _ => decodes_of_mem_outcomes).mp
      (append_cancel_left hSame)
  · exact not_upToDate_of_not_stopsLast hFits hStops

/-
  After every data event no whole capsule is left, and every address and every packet of a
  well-formed capsule received so far was handed over, exactly if at each event the loop ends at
  the last whole capsule and over HTTP/3 no datagram capsule with a packet comes in.
-/
theorem up_to_date_iff_nothing_lost
    (t : Usize)
    (transport : Transport)
    (closed : List Effect → Bool)
    (events : List (List Bytes)) :
    Throughout (step t transport closed) (UpToDate t) new events ↔
      Taken (step t transport closed) (NothingLost t transport closed) new events :=
  throughout_iff_taken (fun hStep => hStep.1) inStep_step not_upToDate_step inStep_new events

/- An assignment that does not decode, then a datagram. -/
theorem bad_capsule_hides_datagram :
    ¬ ∃ transport,
      Throughout (step .w32 transport fun _ => false) (UpToDate .w32) new
        [[(CapsuleParser.badThenDatagram.map WireCapsule.encode).flatten]] := by
  rintro ⟨transport, hAll⟩
  have hBad : parseAddressAssign [1, 5] = .error (.capsule "bad ip version 5") :=
    readEntries_of_error [] (by decide) rfl
  have hOutcomes : outcomes .w32 (badThenDatagram.map encode).flatten =
    [.error (.capsule "bad ip version 5"), .ok (.datagram [0x45])] := by
    rw [outcomes, (framing _).drain_flatten_encode
      encode outcome frontCapsule_encode_cast]
    simp
      [badThenDatagram, outcome, decodeValue, hBad, capsuleAddressAssign,
      capsuleAddressRequest, capsuleRouteAdvertisement, capsuleDatagram, Except.map]
  have hStops : ¬ new.StopsLast .w32 transport
    (fun _ => false) [(badThenDatagram.map encode).flatten] := by
    intro hRuns
    rw [StopsLast, flatten_singleton, new, CapsuleParser.new, nil_append, hOutcomes] at hRuns
    rcases hRuns.1 with hMore | hEnd
    · cases hMore
    · cases hEnd
  rcases not_upToDate_of_not_stopsLast (by decide) hStops with ⟨s', hStep, hNot⟩
  exact hNot (hAll.2 s' hStep)

end Intake

end Kourosh.Masque
