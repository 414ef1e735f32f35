import Kourosh.Lib.Run
import Kourosh.Tun.Packet
import Kourosh.Wireguard.Dataplane

/-
  The inner MTU of the bridge.

  `INNER_MTU_HINT` is one cell of the process.

  Correctness is proven by:
    * `hint_is_last_measurement`
    * `reflects_iff_unspoiled`
-/

-- Sessions Of One Process

namespace Kourosh.Wireguard

open Run
open Option
open Function

/- The default of `INNER_MTU_HINT`. -/
def defaultHint : Nat := 1200

inductive Protocol where
  | masque
  | masqueInMasque
  | wireGuard
  | warpInWarp
deriving DecidableEq

/-
  The endpoints a session validates before it opens the bridge, the one behind the bridge last:
  `run_warp_in_warp` raises the outer tunnel first, and its inner endpoint is a forwarder through
  it.
-/
def Protocol.hops (peer forwarder : SocketAddr) : Protocol → List SocketAddr
| masque => []
| masqueInMasque => []
| wireGuard => [peer]
| warpInWarp => [peer, forwarder]

structure Measurement where
  peer : SocketAddr
  size : Nat

inductive Phase where
  | idle
  -- a scan, with the validations that are under way
  | choosing (protocol : Protocol) (dataCheck : Bool) (candidates : Nat → Option Validation)
  -- the validation of the session's own endpoints
  | raising (hop : Validation) (further : List SocketAddr)
  -- the bridge runs, with what its own endpoint measured
  | bridging (measured : Option Nat)

/- A packet that went through `clamp_tcp_mss`. -/
structure Clamp where
  measured : Option Nat
  maxInner : Nat
  packet : Bytes
deriving DecidableEq

structure Process where
  innerMtuHint : Nat
  phase : Phase
  -- every store to the hint, the last one first
  measurements : List Measurement
  clamps : List Clamp

inductive Event where
  | connect (protocol : Protocol) (dataCheck : Bool)
  -- the scan takes up a candidate
  | probe (i : Nat) (peer : SocketAddr)
  | candidate (i : Nat) (input : Input)
  -- the stream of candidates is dropped and started again
  | rescan
  -- an endpoint is chosen
  | dial (peer forwarder : SocketAddr)
  | hop (input : Input)
  -- the bridge hands a packet on, in either direction
  | clamp (packet : Bytes)
  | close

namespace Process

def init : Process where
  innerMtuHint := defaultHint
  phase := .idle
  measurements := []
  clamps := []

/- `INNER_MTU_HINT.store`, if a validation measured a size. -/
def store (s : Process) (peer : SocketAddr) : Option Nat → Process
| none => s
| some size => { s with innerMtuHint := size, measurements := ⟨peer, size⟩ :: s.measurements }

def raise (dataCheck : Bool) (measured : Option Nat) : List SocketAddr → Phase
| [] => .bridging measured
| peer :: further => .raising (.start peer dataCheck) further

def onCandidate (s : Process) (protocol : Protocol) (dataCheck : Bool)
  (candidates : Nat → Option Validation) (i : Nat) (v : Validation) : Progress → Process
| .running v' => { s with phase := .choosing protocol dataCheck (update candidates i (some v')) }
| .passed size =>
  { s.store v.peer size with phase := .choosing protocol dataCheck (update candidates i none) }
| .failed _ => { s with phase := .choosing protocol dataCheck (update candidates i none) }

def onHop (s : Process) (further : List SocketAddr) (v : Validation) : Progress → Process
| .running v' => { s with phase := .raising v' further }
| .passed size => { s.store v.peer size with phase := raise v.dataCheck size further }
| .failed _ => { s with phase := .idle }

def onBridge (s : Process) (measured : Option Nat) (packet : Bytes) : Process :=
  { s with
    clamps :=
      { measured := measured, maxInner := s.innerMtuHint,
        packet := Tun.clamped packet s.innerMtuHint }
        :: s.clamps }

def step (s : Process) : Event → Option Process
| .connect protocol dataCheck =>
  match s.phase with
  | .idle =>
    some { s with phase := .choosing protocol dataCheck fun _ => none }
  | _ => none
| .probe i peer =>
  match s.phase with
  | .choosing protocol dataCheck candidates =>
    -- only these two protocols scan with `verify_one_wg`
    if (protocol = .wireGuard ∨ protocol = .warpInWarp) ∧ candidates i = none then
      some { s with
        phase := .choosing protocol dataCheck (update candidates i
          (some (.start peer dataCheck))) }
    else none
  | _ => none
| .candidate i input =>
  match s.phase with
  | .choosing protocol dataCheck candidates =>
    (candidates i).bind fun v =>
      (v.step input).map (s.onCandidate protocol dataCheck candidates i v)
  | _ => none
| .rescan =>
  match s.phase with
  | .choosing protocol dataCheck _ =>
    some { s with phase := .choosing protocol dataCheck fun _ => none }
  | _ => none
| .dial peer forwarder =>
  match s.phase with
  | .choosing protocol dataCheck _ =>
    some { s with phase := raise dataCheck none (protocol.hops peer forwarder) }
  | _ => none
| .hop input =>
  match s.phase with
  | .raising v further => (v.step input).map (s.onHop further v)
  | _ => none
| .clamp packet =>
  match s.phase with
  | .bridging measured => some (s.onBridge measured packet)
  | _ => none
| .close =>
  match s.phase with
  | .idle => none
  | _ => some { s with phase := .idle }

/-
  Every packet was clamped to what the session's own endpoint measured, or to the default if it
  measured nothing.
-/
def Reflects (s : Process) : Prop := ∀ c ∈ s.clamps, c.maxInner = c.measured.getD defaultHint

/-
  A session without a measurement clamps only if the last validation of the process that measured
  anything found that full-size packets cross.
-/
def Unspoiled (s : Process) : Event → Prop
| .clamp _ =>
  match s.phase with
  | .bridging none => ∀ m ∈ s.measurements.head?, m.size = defaultHint
  | _ => True
| _ => True

-- What A Step Does

inductive Stepped (s : Process) : Event → Process → Prop where
  -- neither the hint nor the clamps, and no bridge is raised
  | quiet {e : Event} {phase : Phase} (hPhase : ∀ measured, phase ≠ .bridging measured) :
    Stepped s e { s with phase := phase }
  -- a candidate of the scan is measured
  | scanned {e : Event} {peer : SocketAddr} {size : Nat} {phase : Phase}
    (hSize : size ∈ probeLadder) (hPhase : ∀ measured, phase ≠ .bridging measured) :
    Stepped s e { s.store peer (some size) with phase := phase }
  -- an endpoint of the session itself
  | raised {e : Event} {peer : SocketAddr} {dataCheck : Bool} {size : Option Nat}
    {further : List SocketAddr} (hSize : ∀ n ∈ size, n ∈ probeLadder) : Stepped s e
      { s.store peer size with phase := raise dataCheck size further }
  | clamped {packet : Bytes} {measured : Option Nat} (hPhase : s.phase = .bridging measured) :
    Stepped s (.clamp packet) (s.onBridge measured packet)

variable {s s' : Process} {e : Event} {v : Validation} {input : Input}
variable {progress : Progress} {phase : Phase} {size : Nat}

attribute [local simp] step

lemma stepped_of_candidate {protocol : Protocol} {dataCheck : Bool}
  {candidates : Nat → Option Validation} {i : Nat} (hStep : v.step input = some progress) :
  Stepped s e (s.onCandidate protocol dataCheck candidates i v progress) := by
  cases progress with
  | running | failed => exact .quiet nofun
  | passed size =>
    cases size with
    | none => exact .quiet nofun
    | some => exact .scanned (Validation.passed_mem hStep) nofun

lemma stepped_of_hop {further : List SocketAddr}
  (hStep : v.step input = some progress) : Stepped s e (s.onHop further v progress) := by
  cases progress with
  | running | failed => exact .quiet nofun
  | passed =>
    refine .raised ?_
    rintro n rfl
    exact Validation.passed_mem hStep

lemma stepped_of_step (hStep : s.step e = some s') : Stepped s e s' := by
  cases e with
  | connect =>
    cases hPhase : s.phase with
    | idle =>
      simp only [step, hPhase, some.injEq] at hStep
      subst hStep
      exact .quiet nofun
    | _ => simp [hPhase] at hStep
  | probe =>
    cases hPhase : s.phase with
    | choosing =>
      simp only [step, hPhase, ite_none_right_eq_some, some.injEq] at hStep
      rcases hStep with ⟨-, rfl⟩
      exact .quiet nofun
    | _ => simp [hPhase] at hStep
  | candidate =>
    cases hPhase : s.phase with
    | choosing =>
      simp only [step, hPhase, bind_eq_some_iff, map_eq_some_iff] at hStep
      rcases hStep with ⟨v, -, progress, hProgress, rfl⟩
      exact stepped_of_candidate hProgress
    | _ => simp [hPhase] at hStep
  | rescan =>
    cases hPhase : s.phase with
    | choosing =>
      simp only [step, hPhase, some.injEq] at hStep
      subst hStep
      exact .quiet nofun
    | _ => simp [hPhase] at hStep
  | dial peer =>
    cases hPhase : s.phase with
    | choosing =>
      simp only [step, hPhase, some.injEq] at hStep
      subst hStep
      have hNone : s.store peer none = s := rfl
      rw [← hNone]
      exact .raised nofun
    | _ => simp [hPhase] at hStep
  | hop =>
    cases hPhase : s.phase with
    | raising =>
      simp only [step, hPhase, map_eq_some_iff] at hStep
      rcases hStep with ⟨progress, hProgress, rfl⟩
      exact stepped_of_hop hProgress
    | _ => simp [hPhase] at hStep
  | clamp =>
    cases hPhase : s.phase with
    | bridging =>
      simp only [step, hPhase, some.injEq] at hStep
      subst hStep
      exact .clamped hPhase
    | _ => simp [hPhase] at hStep
  | close =>
    cases hPhase : s.phase with
    | idle => simp [hPhase] at hStep
    | _ =>
      simp only [step, hPhase, some.injEq] at hStep
      subst hStep
      exact .quiet nofun

-- What The Hint Holds

structure Sound (s : Process) : Prop where
  -- the last store, or the default
  last : s.innerMtuHint = (s.measurements.head?.map Measurement.size).getD defaultHint
  -- nothing is stored between a measurement and its bridge
  own : ∀ size, s.phase = .bridging (some size) → s.innerMtuHint = size
  ladder : s.innerMtuHint ∈ probeLadder

lemma sound_init : Sound init where
  last := rfl
  own := nofun
  ladder := by decide

lemma Sound.quiet (hSound : Sound s)
  (hPhase : ∀ measured, phase ≠ .bridging measured) :
  Sound { s with phase := phase } := { hSound with
  own := fun _ hBridging => absurd hBridging (hPhase _) }

lemma sound_store {peer : SocketAddr} (hSize : size ∈ probeLadder)
  (hPhase : ∀ size', phase = .bridging (some size') → size' = size) :
  Sound { s.store peer (some size) with phase := phase } where
  last := rfl
  own := fun size' hBridging => (hPhase size' hBridging).symm
  ladder := hSize

lemma sound_step (hSound : Sound s) (hStep : Stepped s e s') : Sound s' := by
  cases hStep with
  | quiet hPhase => exact hSound.quiet hPhase
  | scanned hSize hPhase =>
    refine sound_store hSize ?_
    intro size' hBridging
    exact absurd hBridging (hPhase _)
  | @raised _ _ _ size further hSize =>
    cases size with
    | none =>
      refine ⟨hSound.last, ?_, hSound.ladder⟩
      intro size' hBridging
      cases further with
      | nil | cons => cases hBridging
    | some size =>
      refine sound_store (hSize size rfl) ?_
      intro size' hBridging
      cases further with
      | nil => cases hBridging; rfl
      | cons => cases hBridging
  | clamped => exact { hSound with }

/- In every run the hint is the last measurement, and a session that measured finds its own. -/
theorem hint_is_last_measurement
    (events : List Event) :
    Throughout step Sound init events := by
  have hAll : ∀ {s : Process}, Sound s → Throughout step Sound s events := by
    induction events with
    | nil => exact id
    | cons _ _ ih =>
      intro s hSound
      exact ⟨hSound, fun s' hStep => ih (sound_step hSound (stepped_of_step hStep))⟩
  exact hAll sound_init

-- When The Clamp Reflects The Path

lemma reflects_step (hSound : Sound s)
  (hReflects : Reflects s) (hOk : Unspoiled s e) (hStep : Stepped s e s') : Reflects s' := by
  cases hStep with
  | quiet | scanned => exact hReflects
  | @raised _ _ _ size =>
    cases size with
    | none | some => exact hReflects
  | @clamped _ measured hPhase =>
    intro c hClamp
    rcases List.mem_cons.mp hClamp with rfl | hOld
    · cases measured with
      | some size => exact hSound.own size hPhase
      | none =>
        simp only [Unspoiled, hPhase] at hOk
        change s.innerMtuHint = defaultHint
        rw [hSound.last]
        cases hLast : s.measurements.head? with
        | none => rfl
        | some m => exact hOk m hLast
    · exact hReflects c hOld

lemma not_reflects_of_spoiled
  (hSound : Sound s) (hSpoiled : ¬ Unspoiled s e) : ∃ s', s.step e = some s' ∧ ¬ Reflects s' := by
  cases e with
  | clamp packet =>
    cases hPhase : s.phase with
    | bridging measured =>
      cases measured with
      | some => simp [Unspoiled, hPhase] at hSpoiled
      | none =>
        simp only [Unspoiled, hPhase, not_forall] at hSpoiled
        rcases hSpoiled with ⟨m, hLast, hSize⟩
        refine ⟨s.onBridge none packet, by simp only [step, hPhase], ?_⟩
        intro hReflects
        apply hSize
        have hClamp := hReflects _ (List.mem_cons_self ..)
        have hHint := hSound.last
        rw [mem_def.mp hLast] at hHint
        exact hHint.symm.trans hClamp
    | _ => simp [Unspoiled, hPhase] at hSpoiled
  | _ => exact absurd trivial hSpoiled

/-
  Clamps: in every run of sessions and scans, every packet is clamped to what its session measured
  on its own endpoint, or to the default, iff no session without a measurement clamps while the
  last measurement of the process was below the full size.
-/
theorem reflects_iff_unspoiled
    (events : List Event) :
    Throughout step Reflects init events ↔ Taken step Unspoiled init events := by
  refine throughout_iff_taken (I := fun s => Sound s ∧ Reflects s) (fun hBoth => hBoth.2) ?_ ?_
    ⟨sound_init, nofun⟩ events
  · intro s s' e hBoth hOk hStep
    have hStepped := stepped_of_step hStep
    exact ⟨sound_step hBoth.1 hStepped, reflects_step hBoth.1 hBoth.2 hOk hStepped⟩
  · intro s e hBoth hSpoiled
    exact not_reflects_of_spoiled hBoth.1 hSpoiled

def floorThenMasque : List Event :=
  let peer : SocketAddr := ⟨.v4 ⟨162, 159, 192, 1⟩, 2408⟩
  let answer : Arm := .received 10 (.writeToTunnel [0x45])
  [.connect .wireGuard true, .dial peer peer, .hop (.handshake 0 10000), .hop (.turn 10 answer),
    .hop (.turn 700 answer), .hop (.turn 10000 .slept),
    .clamp [], .close, .connect .masque true,
    .dial peer peer, .clamp []]

theorem masque_inherits_floor : ¬ ∀ events : List Event, Throughout step Reflects init events := by
  intro hAll
  refine not_throughout (q := fun s => decide (s.clamps.head? = some ⟨none, 576, []⟩))
    ?_ (by decide +kernel) (hAll floorThenMasque)
  intro s hLast hReflects
  have hMem := List.mem_of_mem_head? (mem_def.mpr (of_decide_eq_true hLast))
  have hClamp := hReflects _ hMem
  cases hClamp

end Process

end Kourosh.Wireguard
