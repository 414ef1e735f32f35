import Kourosh.Tun.ExitIp

/-
  When the exit address is asked for, and how often.

  The bridge arms the probe when it sees traffic, asks on a timer whether a packet is due, and
  shows the probe every packet that comes out of the tunnel.

  Correctness is proven by:
    * `exit_probe_schedule`
-/

-- The Probe

namespace Kourosh.Tun

open Run
open List

def firstDelay : Nat := 1200

def retryGap : Nat := 3000

def maxAttempts : Nat := 4

inductive ProbeState where
  -- the tunnel has not carried anything yet
  | idle
  | waiting (probe : Probe) (attempts next : Nat)
  | done
deriving DecidableEq

structure ExitProbe where
  localIpv4 : Ipv4Addr
  state : ProbeState
  startAfter : Option Nat

namespace ExitProbe

def new (localIpv4 : Ipv4Addr) : ExitProbe := ⟨localIpv4, .idle, none⟩

def needsTicking (p : ExitProbe) : Bool := p.state ≠ .done

def arm (p : ExitProbe) (now : Nat) : ExitProbe :=
  if p.startAfter.isNone then { p with startAfter := some (now + firstDelay) }
  else p

def due (p : ExitProbe) (now : Nat) (id port ident : UInt16) : Option Bytes × ExitProbe :=
  if p.localIpv4 = ⟨0, 0, 0, 0⟩ then (none, { p with state := .done })
  else
    match p.state with
    | .idle =>
      if p.startAfter.any (now ≥ ·) then
        let probe := Probe.whoami p.localIpv4 id port ident
        (some probe.packet, { p with state := .waiting probe 1 (now + retryGap) })
      else (none, p)
    | .waiting probe attempts next =>
      if now < next then (none, p)
      else if attempts ≥ maxAttempts then (none, { p with state := .done })
      else (some probe.packet, { p with state := .waiting probe (attempts + 1) (now + retryGap) })
    | .done => (none, p)

def consume (p : ExitProbe) (packet : Bytes) : Bool × Option Ipv4Addr × ExitProbe :=
  match p.state with
  | .waiting probe _ _ =>
    if probe.matchesPacket packet then
      match probe.read packet with
      | some ip => (true, some ip, { p with state := .done })
      | none => (true, none, p)
    else (false, none, p)
  | _ => (false, none, p)

end ExitProbe

-- Runs

inductive ProbeCall where
  | arm
  | due (id port ident : UInt16)
  | consume (packet : Bytes)

structure Report where
  probe : Probe
  packet : Bytes
  ip : Ipv4Addr

structure Probing where
  exit : ExitProbe
  clock : Nat
  armed : Option Nat
  emitted : List (Nat × Bytes)
  reported : List Report

namespace Probing

def start (localIpv4 : Ipv4Addr) : Probing := ⟨.new localIpv4, 0, none, [], []⟩

def reports (s : Probing) (packet : Bytes) : List Report :=
  match s.exit.state, (s.exit.consume packet).2.1 with
  | .waiting probe _ _, some ip => [⟨probe, packet, ip⟩]
  | _, _ => []

def step (s : Probing) (e : Nat × ProbeCall) : Option Probing :=
  if e.1 < s.clock then none
  else
    match e.2 with
    | .arm => some { s with exit := s.exit.arm e.1, clock := e.1, armed := s.armed.or (some e.1) }
    | .due id port ident =>
      some { s with
        exit := (s.exit.due e.1 id port ident).2, clock := e.1,
        emitted := (s.exit.due e.1 id port ident).1.toList.map (e.1, ·) ++ s.emitted }
    | .consume packet =>
      some { s with
        exit := (s.exit.consume packet).2.2, clock := e.1,
        reported := s.reports packet ++ s.reported }

def Fits (emitted : List (Nat × Bytes)) (reported : List Report) : ProbeState → Prop
| .idle => emitted = [] ∧ reported = []
| .waiting probe attempts next =>
  emitted.length = attempts ∧ (∀ e ∈ emitted, e.2 = probe.packet) ∧
    emitted.head?.map (·.1 + retryGap) = some next ∧ reported = []
| .done => reported.length ≤ 1

structure Sound (s : Probing) : Prop where
  start_eq : s.exit.startAfter = s.armed.map (· + firstDelay)
  few : s.emitted.length ≤ maxAttempts
  late : ∀ e ∈ s.emitted, ∃ at' ∈ s.armed, at' + firstDelay ≤ e.1
  spaced : s.emitted.Pairwise fun later earlier => earlier.1 + retryGap ≤ later.1
  same : ∃ packet, ∀ e ∈ s.emitted, e.2 = packet
  fits : Fits s.emitted s.reported s.exit.state
  matched : ∀ r ∈ s.reported, r.probe.matchesPacket r.packet = true ∧
    r.probe.read r.packet = some r.ip ∧ ∀ e ∈ s.emitted, e.2 = r.probe.packet

variable {s s' : Probing} {e : Nat × ProbeCall}

lemma sound_start (localIpv4 : Ipv4Addr) : Sound (start localIpv4) where
  start_eq := rfl
  few := Nat.zero_le _
  late := nofun
  spaced := .nil
  same := ⟨[], nofun⟩
  fits := ⟨rfl, rfl⟩
  matched := nofun

lemma sound_arm (hSound : Sound s) (now : Nat) : Sound { s with
  exit := s.exit.arm now, clock := now, armed := s.armed.or (some now) } := by
  have hStart := hSound.start_eq
  have hKept : (s.exit.arm now).state = s.exit.state ∧
    (s.exit.arm now).startAfter = (s.armed.or (some now)).map (· + firstDelay) := by
    unfold ExitProbe.arm
    cases hArmed : s.armed with
    | none | some =>
      rw [hArmed] at hStart
      simp [hStart]
  refine { hSound with start_eq := hKept.2, late := ?_, fits := ?_ }
  · intro e hMem
    rcases hSound.late e hMem with ⟨first, hArmed, hLate⟩
    rw [Option.mem_def.mp hArmed]
    exact ⟨first, rfl, hLate⟩
  · rw [hKept.1]
    exact hSound.fits

inductive Attempt (now : Nat) (p : ExitProbe) : Probe → Nat → Prop
  | first {probe : Probe} {start : Nat} (hIdle : p.state = .idle)
    (hStart : p.startAfter = some start) (hNow : start ≤ now) : Attempt now p probe 0
  | again {probe : Probe} {attempts next : Nat} (hWaiting : p.state = .waiting probe attempts next)
    (hNow : next ≤ now) (hFew : attempts < maxAttempts) : Attempt now p probe attempts

lemma due_cases (p : ExitProbe) (now : Nat) (id port ident : UInt16) : p.due now id port ident =
  (none, p) ∨ p.due now id port ident = (none, { p with state := .done }) ∨
  ∃ probe attempts, Attempt now p probe attempts ∧ p.due now id port ident =
  (some probe.packet, { p with state := .waiting probe (attempts + 1) (now + retryGap) }) := by
  unfold ExitProbe.due
  split
  · exact .inr (.inl rfl)
  · cases hState : p.state with
    | idle =>
      simp only
      split
      next hReady =>
        rw [Option.any_eq_true] at hReady
        rcases hReady with ⟨start, hStart, hNow⟩
        exact .inr (.inr ⟨_, 0, .first hState hStart (by simpa using hNow), rfl⟩)
      · exact .inl rfl
    | waiting probe attempts next =>
      simp only
      split
      · exact .inl rfl
      next hNow =>
        split
        · exact .inr (.inl rfl)
        next hFew => exact .inr (.inr ⟨probe, attempts, .again hState (by omega) (by omega), rfl⟩)
    | done => exact .inl rfl

lemma Fits.length_le {emitted : List (Nat × Bytes)} {reported : List Report}
  {state : ProbeState} (hFits : Fits emitted reported state) : reported.length ≤ 1 := by
  cases state with
  | idle => simp [hFits.2]
  | waiting => simp [hFits.2.2.2]
  | done => exact hFits

section

variable (hSound : Sound s)

include hSound

lemma Sound.attempt
  {now attempts : Nat} {probe : Probe} (hAttempt : Attempt now s.exit probe attempts) :
  s.emitted.length = attempts ∧ attempts < maxAttempts ∧ s.reported = [] ∧ (∀ e ∈ s.emitted,
  e.2 = probe.packet ∧ e.1 + retryGap ≤ now) ∧ ∃ first ∈ s.armed, first + firstDelay ≤ now := by
  have hFits := hSound.fits
  cases hAttempt with
  | first hIdle hStart hNow =>
    rw [hIdle] at hFits
    rw [hSound.start_eq, Option.map_eq_some_iff] at hStart
    rcases hStart with ⟨first, hArmed, rfl⟩
    rw [hFits.1]
    exact ⟨rfl, by decide, hFits.2, nofun, first, hArmed, hNow⟩
  | again hWaiting hNow hFew =>
    rw [hWaiting] at hFits
    rcases hFits with ⟨hLength, hSame, hNext, hNone⟩
    rcases Option.map_eq_some_iff.mp hNext with ⟨last, hLast, rfl⟩
    have hSpaced := hSound.spaced
    rcases head?_eq_some_iff.mp hLast with ⟨earlier, hEmitted⟩
    refine ⟨hLength, hFew, hNone, fun e hMem => ⟨hSame e hMem, ?_⟩, ?_⟩
    · rw [hEmitted] at hMem hSpaced
      rcases mem_cons.mp hMem with rfl | hBefore
      · exact hNow
      · have hGap := (pairwise_cons.mp hSpaced).1 e hBefore
        omega
    · rcases hSound.late last (mem_of_mem_head? hLast) with ⟨first, hArmed, _⟩
      exact ⟨first, hArmed, by omega⟩

lemma sound_due (now : Nat) (id port ident : UInt16) : Sound { s with
  exit := (s.exit.due now id port ident).2
  clock := now
  emitted := (s.exit.due now id port ident).1.toList.map (now, ·) ++ s.emitted } := by
  rcases due_cases s.exit now id port ident with hDue | hDue | ⟨probe, attempts, hAttempt, hDue⟩
  · rw [hDue]
    exact { hSound with }
  · rw [hDue]
    exact { hSound with fits := hSound.fits.length_le }
  · rcases hSound.attempt hAttempt with ⟨hLength, hFew, hNone, hBefore, hArmed⟩
    have hSame : ∀ e ∈ (now, probe.packet) :: s.emitted, e.2 = probe.packet := by
      rw [forall_mem_cons]
      exact ⟨rfl, fun e hMem => (hBefore e hMem).1⟩
    rw [hDue]
    refine ⟨hSound.start_eq, ?_, ?_, ?_, ⟨probe.packet, hSame⟩,
      ⟨congrArg (· + 1) hLength, hSame, rfl, hNone⟩, ?_⟩
    · exact Nat.succ_le_of_lt (hLength ▸ hFew)
    · exact forall_mem_cons.mpr ⟨hArmed, hSound.late⟩
    · exact pairwise_cons.mpr ⟨fun e hMem => (hBefore e hMem).2, hSound.spaced⟩
    · intro r hMem
      rw [hNone] at hMem
      cases hMem

lemma sound_consume (now : Nat) (packet : Bytes) : Sound { s with
  exit := (s.exit.consume packet).2.2
  clock := now
  reported := s.reports packet ++ s.reported } := by
  have hFits := hSound.fits
  unfold reports ExitProbe.consume
  cases hState : s.exit.state with
  | idle | done => exact { hSound with }
  | waiting probe =>
    rw [hState] at hFits
    rcases hFits with ⟨-, hSame, -, hNone⟩
    by_cases hMatch : probe.matchesPacket packet
    · cases hRead : probe.read packet with
      | none =>
        simp only [hMatch, if_true, hRead]
        exact { hSound with }
      | some =>
        simp only [hMatch, if_true, hRead, hNone]
        exact { hSound with
          fits := Nat.le_refl 1
          matched := by
            intro r hMem
            cases mem_singleton.mp hMem
            exact ⟨hMatch, hRead, hSame⟩ }
    · simp only [hMatch]
      exact { hSound with }

lemma sound_step (hStep : s.step e = some s') : Sound s' := by
  rcases e with ⟨now, call⟩
  rw [step, Option.ite_none_left_eq_some] at hStep
  cases call with
  | arm =>
    cases hStep.2
    exact sound_arm hSound now
  | due id port ident =>
    cases hStep.2
    exact sound_due hSound now id port ident
  | consume packet =>
    cases hStep.2
    exact sound_consume hSound now packet

end

lemma sound_of_exec {calls : List (Nat × ProbeCall)} (hSound : Sound s)
  (hExec : exec step s calls = some s') : Sound s' :=
  (Reaches.of_exec .start hExec (taken_always step s calls)).invariant hSound
    fun hBefore _ => sound_step hBefore

end Probing

/-
  Along any calls the attempts are few, late, apart and the same; a report is for the outstanding
  probe and comes once; and a probe that is done does nothing any more.
-/
theorem exit_probe_schedule
    {localIpv4 : Ipv4Addr}
    {calls : List (Nat × ProbeCall)}
    {s : Probing}
    (hRun : exec Probing.step (.start localIpv4) calls = some s) :
    s.emitted.length ≤ maxAttempts ∧
    (∀ e ∈ s.emitted, ∃ first ∈ s.armed, first + firstDelay ≤ e.1) ∧
    (s.emitted.Pairwise fun later earlier => earlier.1 + retryGap ≤ later.1) ∧
    (∀ a ∈ s.emitted, ∀ b ∈ s.emitted, a.2 = b.2) ∧
    s.reported.length ≤ 1 ∧
    (∀ r ∈ s.reported,
      r.probe.matchesPacket r.packet = true ∧
      r.probe.read r.packet = some r.ip ∧
      ∀ e ∈ s.emitted, e.2 = r.probe.packet) ∧
    (∀ packet ip,
      (s.exit.consume packet).2.1 = some ip →
      ∃ probe attempts next,
        s.exit.state = .waiting probe attempts next ∧ probe.matchesPacket packet = true) ∧
    (s.exit.state = .done →
     s.exit.needsTicking = false ∧
     (∀ packet, s.exit.consume packet = (false, none, s.exit)) ∧
     ∀ now id port ident, s.exit.due now id port ident = (none, s.exit)) := by
  have hSound := Probing.sound_of_exec (Probing.sound_start localIpv4) hRun
  refine ⟨hSound.few, hSound.late, hSound.spaced, ?_, hSound.fits.length_le, hSound.matched, ?_, ?_⟩
  · rcases hSound.same with ⟨packet, hSame⟩
    intro a hA b hB
    rw [hSame a hA, hSame b hB]
  · intro packet ip hReport
    unfold ExitProbe.consume at hReport
    split at hReport
    next probe attempts next hState =>
      refine ⟨probe, attempts, next, hState, ?_⟩
      by_contra hOther
      simp [hOther] at hReport
    · cases hReport
  · intro hDone
    refine ⟨by simp [ExitProbe.needsTicking, hDone],
      fun packet => by simp only [ExitProbe.consume, hDone], ?_⟩
    intro now id port ident
    unfold ExitProbe.due
    split
    · rw [← hDone]
    · simp only [hDone]

/- Armed at the start, and due right after the delay. -/
theorem first_attempt_is_emitted :
    ∃ s,
      exec Probing.step (.start ⟨10, 0, 0, 2⟩) [(0, .arm), (1200, .due 7 8 9)] = some s ∧
      s.emitted.map Prod.fst = [1200] ∧ s.emitted.length ≤ maxAttempts := by
  refine ⟨_, rfl, rfl, ?_⟩
  exact (@exit_probe_schedule ⟨10, 0, 0, 2⟩ [(0, .arm), (1200, .due 7 8 9)] _ rfl).1

end Kourosh.Tun
