import Kourosh.Lib.Tickets
import Kourosh.Lib.Run

/-
  The life of the native core behind its C interface.

  One thread starts the core again and again, and any number of threads ask it to stop.
-/

-- Threads

namespace Kourosh.Ffi

open Function

/- Where `wait_for_stop` stands. -/
inductive Waiter where
  -- at the head of the loop
  | top
  -- `notified()` is called, the flag is not read yet
  | created (ticket : Nat)
  -- in `notified.await`
  | parked (ticket : Nat)
deriving DecidableEq

inductive Cause where
  -- `wait_for_stop` returned
  | stopped
  -- the tunnel returned or panicked
  | finished
  -- no runtime could be built
  | failed
deriving DecidableEq

/- Where `aether_start_json_inner` stands. -/
inductive Starter where
  | out
  -- `RUNNING` is claimed, `STOP_REQUESTED` not reset yet
  | claimed
  -- the flag is reset, the runtime is being built
  | building
  -- in `select!`
  | selecting (waiter : Waiter)
  -- out of `select!`, `RunningGuard` is not dropped yet
  | leaving (cause : Cause)
deriving DecidableEq

/- Where a call of `aether_stop` stands, with the run that it found running. -/
inductive Stopper where
  | out
  | loaded (run : Nat)
  -- the flag is set, nobody is notified yet
  | stored (run : Nat)

/- The shared state and the threads. -/
structure Core where
  running : Bool
  stopRequested : Bool
  notify : Notify
  starter : Starter
  stoppers : Nat → Stopper
  run : Nat
  asked : Nat → Bool
  granted : Nat → Bool

inductive Event where
  -- the starter
  | claim
  | reset
  | built
  | buildFailed
  -- its `wait_for_stop`
  | create
  | check
  | wake
  -- the tunnel
  | finish
  | release
  -- the calls of `aether_stop`
  | load (i : Nat)
  | store (i : Nat)
  | notify (i : Nat)
deriving DecidableEq

-- Steps

namespace Core

def init : Core where
  running := false
  stopRequested := false
  notify := .new
  starter := .out
  stoppers := fun _ => .out
  run := 0
  asked := fun _ => false
  granted := fun _ => false

def setStarter (s : Core) (starter : Starter) : Core := { s with starter }

def setStopper (s : Core) (i : Nat) (stopper : Stopper) : Core :=
  { s with stoppers := update s.stoppers i stopper }

/- `RUNNING.compare_exchange(false, true)`. -/
def claim (s : Core) : Core :=
  if s.running then s
  else { s with running := true, starter := .claimed, run := s.run + 1 }

/- The check of the flag in `wait_for_stop`. -/
def check (s : Core) (ticket : Nat) : Core :=
  if s.stopRequested then s.setStarter (.leaving .stopped)
  else s.setStarter (.selecting (.parked ticket))

/- `RUNNING.load()` in `aether_stop`; it returns 0 or goes on. -/
def load (s : Core) (i : Nat) : Core := if s.running then s.setStopper i (.loaded s.run) else s

/- `STOP_REQUESTED.store(true)`. -/
def store (s : Core) (i run : Nat) : Core :=
  { s.setStopper i (.stored run) with stopRequested := true, asked := update s.asked run true }

/- `notify_waiters()`, and the call returns 1. -/
def grant (s : Core) (i run : Nat) : Core :=
  { s.setStopper i .out with
    notify := s.notify.notifyWaiters
    granted := update s.granted run true }

/- `RunningGuard::drop`. -/
def release (s : Core) : Core := { s with running := false, starter := .out }

def stepStarter (s : Core) : Event → Starter → Option Core
| .claim, .out => some s.claim
| .reset, .claimed =>
  some { s with stopRequested := false, starter := .building }
| .built, .building => some (s.setStarter (.selecting .top))
| .buildFailed, .building => some (s.setStarter (.leaving .failed))
| .create, .selecting .top => some (s.setStarter (.selecting (.created s.notify.notified)))
| .check, .selecting (.created ticket) => some (s.check ticket)
| .wake, .selecting (.parked ticket) =>
  if s.notify.ready ticket then some (s.setStarter (.selecting .top)) else none
| .finish, .selecting _ => some (s.setStarter (.leaving .finished))
| .release, .leaving _ => some s.release
| _, _ => none

def step (s : Core) : Event → Option Core
| .load i =>
  match s.stoppers i with
  | .out => some (s.load i)
  | _ => none
| .store i =>
  match s.stoppers i with
  | .loaded run => some (s.store i run)
  | _ => none
| .notify i =>
  match s.stoppers i with
  | .stored run => some (s.grant i run)
  | _ => none
| e => s.stepStarter e s.starter

-- Transitions

variable {s s' : Core}

inductive Stepped (s : Core) : Event → Core → Prop
-- the core is running already
| refuse (hOut : s.starter = .out) (hRunning : s.running = true) : Stepped s .claim s
| claim (hOut : s.starter = .out) (hFree : s.running = false) : Stepped s .claim
  { s with running := true, starter := .claimed, run := s.run + 1 }
| reset (hClaimed : s.starter = .claimed) : Stepped s .reset
  { s with stopRequested := false, starter := .building }
| built (hBuilding : s.starter = .building) : Stepped s .built (s.setStarter (.selecting .top))
| buildFailed (hBuilding : s.starter = .building) :
  Stepped s .buildFailed (s.setStarter (.leaving .failed))
| create (hTop : s.starter = .selecting .top) :
  Stepped s .create (s.setStarter (.selecting (.created s.notify.notified)))
| see {ticket : Nat} (hCreated : s.starter = .selecting (.created ticket))
  (hFlag : s.stopRequested = true) :
  Stepped s .check (s.setStarter (.leaving .stopped))
| park {ticket : Nat} (hCreated : s.starter = .selecting (.created ticket))
  (hFlag : s.stopRequested = false) :
  Stepped s .check (s.setStarter (.selecting (.parked ticket)))
| wake {ticket : Nat} (hParked : s.starter = .selecting (.parked ticket))
  (hReady : s.notify.ready ticket = true) :
  Stepped s .wake (s.setStarter (.selecting .top))
| finish {waiter : Waiter} (hSelecting : s.starter = .selecting waiter) :
  Stepped s .finish (s.setStarter (.leaving .finished))
| release {cause : Cause} (hLeaving : s.starter = .leaving cause) : Stepped s .release s.release
-- the call returns 0
| deny {i : Nat} (hFree : s.running = false) : Stepped s (.load i) s
| load {i : Nat} (hRunning : s.running = true) :
  Stepped s (.load i) (s.setStopper i (.loaded s.run))
| store {i run : Nat} (hLoaded : s.stoppers i = .loaded run) : Stepped s (.store i) (s.store i run)
| grant {i run : Nat} (hStored : s.stoppers i = .stored run) : Stepped s (.notify i) (s.grant i run)

variable {e : Event}

lemma stepped_stepStarter (hStep : s.stepStarter e s.starter = some s') : Stepped s e s' := by
  unfold stepStarter at hStep
  split at hStep
  next hOut =>
    cases hStep
    unfold claim
    by_cases hRunning : s.running
    · rw [if_pos hRunning]
      exact .refuse hOut hRunning
    · rw [if_neg hRunning]
      exact .claim hOut (by simpa using hRunning)
  next hClaimed =>
    cases hStep
    exact .reset hClaimed
  next hBuilding =>
    cases hStep
    exact .built hBuilding
  next hBuilding =>
    cases hStep
    exact .buildFailed hBuilding
  next hTop =>
    cases hStep
    exact .create hTop
  next ticket hCreated =>
    cases hStep
    unfold check
    by_cases hFlag : s.stopRequested
    · rw [if_pos hFlag]
      exact .see hCreated hFlag
    · rw [if_neg hFlag]
      exact .park hCreated (by simpa using hFlag)
  next ticket hParked =>
    split at hStep
    next hReady =>
      cases hStep
      exact .wake hParked hReady
    · cases hStep
  next waiter hSelecting =>
    cases hStep
    exact .finish hSelecting
  next cause hLeaving =>
    cases hStep
    exact .release hLeaving
  · cases hStep

lemma stepped_of_step (hStep : s.step e = some s') : Stepped s e s' := by
  unfold step at hStep
  split at hStep
  · -- load
    split at hStep
    · cases hStep
      unfold load
      by_cases hRunning : s.running
      · rw [if_pos hRunning]
        exact .load hRunning
      · rw [if_neg hRunning]
        exact .deny (by simpa using hRunning)
    · cases hStep
  · -- store
    split at hStep
    next run hLoaded =>
      cases hStep
      exact .store hLoaded
    · cases hStep
  · -- notify
    split at hStep
    next run hStored =>
      cases hStep
      exact .grant hStored
    · cases hStep
  · exact stepped_stepStarter hStep

end Core

end Kourosh.Ffi
