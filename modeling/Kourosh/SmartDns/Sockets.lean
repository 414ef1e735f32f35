import Kourosh.Lib.Run
import Kourosh.SmartDns.Engine

/-
  Lookups over the shared sockets of the engine.

  Every lookup starts a task for each socket of a list.

  Correctness is proven by:
    * `replies_kept_of_alone`
-/

-- Tasks And Sockets

namespace Kourosh.SmartDns

open Run
open List

def maxConcurrentQueries : Nat := 32

structure Lookup where
  id : UInt16
  name : Bytes
  qtype : UInt16

def Lookup.answeredBy (l : Lookup) (resp : Bytes) : Bool := responseMatches resp l.id l.name l.qtype

inductive Phase where
  | sending
  | waiting
  | done (resp : Option Bytes)
deriving DecidableEq

structure Task where
  lookup : Lookup
  socket : Nat
  phase : Phase

structure Pending where
  handles : List Nat
  result : Option (Option Bytes)

structure Reception where
  task : Nat
  datagram : Bytes
  expected : List Nat

structure Sockets where
  permits : Nat
  buffers : Nat → List Bytes
  tasks : List Task
  lookups : List Pending
  taken : List Reception

inductive SocketList where
  | antiSanction
  | fallback

def SocketList.indices : SocketList → List Nat
| .antiSanction => [0, 1, 2, 3, 4, 5]
| .fallback => [6, 7, 8, 9]

inductive Move where
  | start (lookup : Lookup) (sockets : SocketList)
  | send (task : Nat) (ok : Bool)
  | arrive (socket : Nat) (datagram : Bytes)
  | recv (task : Nat)
  -- the deadline, or an error of the socket
  | expire (task : Nat)
  | await (lookup : Nat)

namespace Sockets

def init : Sockets where
  permits := maxConcurrentQueries
  buffers := fun _ => []
  tasks := []
  lookups := []
  taken := []

def setPhase (s : Sockets) (t : Nat) (task : Task) (phase : Phase) : Sockets :=
  { s with tasks := s.tasks.set t { task with phase } }

def expected (s : Sockets) (socket : Nat) (datagram : Bytes) : List Nat :=
  (range s.tasks.length).filter fun t =>
    s.tasks[t]?.any fun task =>
      task.socket = socket && task.phase = .waiting && task.lookup.answeredBy datagram

def take (s : Sockets) (t : Nat) (task : Task) (datagram : Bytes) (rest : List Bytes) : Sockets :=
  let resp := datagram.take 4096
  { s.setPhase t task (if task.lookup.answeredBy resp then .done (some resp)
    else .waiting) with
    buffers := Function.update s.buffers task.socket rest
    taken := s.taken ++ [{ task := t, datagram := resp, expected := s.expected task.socket resp }] }

def start (s : Sockets) (lookup : Lookup) (sockets : SocketList) : Sockets :=
  { s with
    permits := s.permits - 1
    tasks := s.tasks ++ sockets.indices.map fun socket => { lookup, socket, phase := .sending }
    lookups := s.lookups ++
      [{ handles := range' s.tasks.length sockets.indices.length, result := none }] }

def awaitHandle (s : Sockets) (i : Nat) (pending : Pending) : Option Sockets :=
  let finish (resp : Option Bytes) : Sockets :=
    { s with
      permits := s.permits + 1
      lookups := s.lookups.set i { handles := [], result := some resp } }
  match pending.result, pending.handles with
  | some _, _ => none
  | none, [] => some (finish none)
  | none, t :: handles =>
    match (s.tasks[t]?).map Task.phase with
    | some (.done (some resp)) => some (finish (some resp))
    | some (.done none) => some { s with lookups := s.lookups.set i { pending with handles } }
    | _ => none

def step (s : Sockets) : Move → Option Sockets
| .start lookup sockets => if s.permits = 0 then none else some (s.start lookup sockets)
| .send t ok =>
  match s.tasks[t]? with
  | some task =>
    if task.phase = .sending then some (s.setPhase t task (if ok then .waiting else .done none))
    else none
  | none => none
| .arrive socket datagram =>
  some { s with buffers := Function.update s.buffers socket (s.buffers socket ++ [datagram]) }
| .recv t =>
  match s.tasks[t]? with
  | some task =>
    match s.buffers task.socket with
    | [] => none
    | datagram :: rest => if task.phase = .waiting then some (s.take t task datagram rest) else none
  | none => none
| .expire t =>
  match s.tasks[t]? with
  | some task =>
    if task.phase = .waiting then some (s.setPhase t task (.done none))
    else none
  | none => none
| .await i =>
  match s.lookups[i]? with
  | some pending => s.awaitHandle i pending
  | none => none

-- Replies And Their Lookups

def Alone (s : Sockets) : Move → Prop
| .send t true =>
  ∀ task ∈ s.tasks, task.phase = .waiting → some task.socket ≠ s.tasks[t]?.map Task.socket
| _ => True

instance (s : Sockets) (e : Move) : Decidable (s.Alone e) := by
  unfold Alone
  split <;> infer_instance

def Kept (s : Sockets) : Prop :=
  ∀ r ∈ s.taken, ∀ t ∈ r.expected, t = r.task ∧
    ∃ task, s.tasks[t]? = some task ∧ task.phase = .done (some r.datagram)

structure Sound (s : Sockets) : Prop where
  solo : ∀ {t t' : Nat} {task task' : Task}, s.tasks[t]? = some task → s.tasks[t']? = some task' →
    task.phase = .waiting → task'.phase = .waiting → task.socket = task'.socket → t = t'
  kept : s.Kept

variable {s s' : Sockets} {t : Nat} {task : Task} {phase : Phase}

lemma mem_expected_iff {socket : Nat}
  {datagram : Bytes} : t ∈ s.expected socket datagram ↔ ∃ task, s.tasks[t]? = some task ∧
  task.socket = socket ∧ task.phase = .waiting ∧ task.lookup.answeredBy datagram := by
  rw [expected, mem_filter, mem_range]
  constructor
  · rintro ⟨hLt, hAny⟩
    rw [getElem?_eq_getElem hLt] at hAny ⊢
    simp only [Option.any_some, Bool.and_eq_true, decide_eq_true_eq] at hAny
    exact ⟨_, rfl, hAny.1.1, hAny.1.2, hAny.2⟩
  · rintro ⟨task, hTask, hSocket, hPhase, hAnswer⟩
    refine ⟨(List.getElem?_eq_some_iff.mp hTask).1, ?_⟩
    simp [hTask, hSocket, hPhase, hAnswer]

section Steps

variable (hSound : Sound s) (hTask : s.tasks[t]? = some task)
include hSound hTask

lemma kept_setPhase (hLive : ∀ resp, task.phase ≠ .done resp) : (s.setPhase t task phase).Kept := by
  intro r hMem t' hExpected
  rcases hSound.kept r hMem t' hExpected with ⟨hOwn, task', hAt, hDone⟩
  refine ⟨hOwn, task', ?_, hDone⟩
  have hOther : t ≠ t' := by
    rintro rfl
    rw [hTask] at hAt
    cases hAt
    exact hLive _ hDone
  rw [setPhase, getElem?_set_ne hOther]
  exact hAt

lemma sound_setPhase (hLive : ∀ resp, task.phase ≠ .done resp) (hAlone :
  phase = .waiting → ∀ {t' : Nat} {task' : Task}, s.tasks[t']? = some task' → task'.phase =
  .waiting → task'.socket = task.socket → t' = t) : Sound (s.setPhase t task phase) := by
  refine ⟨?_, kept_setPhase hSound hTask hLive⟩
  intro i j first second hFirst hSecond hWaits hWaits' hSocket
  rcases getElem?_set_cases hFirst with ⟨rfl, rfl⟩ | ⟨-, hOld⟩
  · rcases getElem?_set_cases hSecond with ⟨rfl, -⟩ | ⟨-, hOld⟩
    · rfl
    · exact (hAlone hWaits hOld hWaits' hSocket.symm).symm
  · rcases getElem?_set_cases hSecond with ⟨rfl, rfl⟩ | ⟨-, hOld'⟩
    · exact hAlone hWaits' hOld hWaits hSocket
    · exact hSound.solo hOld hOld' hWaits hWaits' hSocket

lemma sound_take (hWaits : task.phase = .waiting) (datagram : Bytes)
  (rest : List Bytes) : Sound (s.take t task datagram rest) := by
  have hLive : ∀ resp, task.phase ≠ .done resp := by
    intro resp hDone
    rw [hWaits] at hDone
    cases hDone
  have hMoved : ∀ phase, Sound (s.setPhase t task phase) := by
    intro phase
    refine sound_setPhase hSound hTask hLive ?_
    intro _ t' task' hAt hWaits' hSocket
    exact hSound.solo hAt hTask hWaits' hWaits hSocket
  refine ⟨(hMoved _).solo, ?_⟩
  intro r hMem t' hExpected
  rcases mem_append.mp hMem with hOld | hNew
  · exact (hMoved _).kept r hOld t' hExpected
  · rw [mem_singleton] at hNew
    subst hNew
    rcases mem_expected_iff.mp hExpected with ⟨task', hAt, hSocket, hWaits', hAnswer⟩
    have hSame := hSound.solo hAt hTask hWaits' hWaits hSocket
    subst hSame
    rw [hTask] at hAt
    cases hAt
    refine ⟨rfl, { task with phase := .done (some (datagram.take 4096)) }, ?_, rfl⟩
    rw [take, setPhase, if_pos hAnswer]
    exact List.getElem?_set_self (List.getElem?_eq_some_iff.mp hTask).1

end Steps

lemma sound_start (hSound : Sound s)
  (lookup : Lookup) (sockets : SocketList) : Sound (s.start lookup sockets) := by
  have hOld : ∀ {i : Nat} {found : Task}, (s.start lookup sockets).tasks[i]? = some found →
    found.phase ≠ .sending → s.tasks[i]? = some found := by
    intro i found hAt hPhase
    rcases getElem?_append_cases hAt with hOld | hNew
    · exact hOld
    · rcases mem_map.mp hNew with ⟨socket, -, rfl⟩
      exact absurd rfl hPhase
  refine ⟨?_, ?_⟩
  · intro i j first second hFirst hSecond hWaits hWaits' hSocket
    refine hSound.solo (hOld hFirst ?_) (hOld hSecond ?_) hWaits hWaits' hSocket
    · rw [hWaits]
      decide
    · rw [hWaits']
      decide
  · intro r hMem t' hExpected
    rcases hSound.kept r hMem t' hExpected with ⟨hOwn, task', hAt, hDone⟩
    refine ⟨hOwn, task', ?_, hDone⟩
    rw [start, List.getElem?_append_left (List.getElem?_eq_some_iff.mp hAt).1]
    exact hAt

lemma awaitHandle_frame {i : Nat} {pending : Pending}
  (hStep : s.awaitHandle i pending = some s') : s'.tasks = s.tasks ∧ s'.taken = s.taken := by
  rw [awaitHandle] at hStep
  split at hStep
  next => cases hStep
  next =>
    cases hStep
    exact ⟨rfl, rfl⟩
  next =>
    split at hStep
    next =>
      cases hStep
      exact ⟨rfl, rfl⟩
    next =>
      cases hStep
      exact ⟨rfl, rfl⟩
    next => cases hStep

lemma sound_step {e : Move} (hSound : Sound s) (hOk : s.Alone e)
  (hStep : s.step e = some s') : Sound s' := by
  cases e with
  | start lookup sockets =>
    rw [step] at hStep
    split at hStep
    next => cases hStep
    next =>
      cases hStep
      exact sound_start hSound lookup sockets
  | arrive =>
    cases hStep
    exact ⟨hSound.solo, hSound.kept⟩
  | await =>
    rw [step] at hStep
    split at hStep
    next =>
      rcases awaitHandle_frame hStep with ⟨hTasks, hTaken⟩
      refine ⟨?_, ?_⟩
      · rw [hTasks]
        exact hSound.solo
      · rw [Kept, hTasks, hTaken]
        exact hSound.kept
    next => cases hStep
  | send t ok =>
    rw [step] at hStep
    split at hStep
    next task hTask =>
      split at hStep
      next hSends =>
        cases hStep
        refine sound_setPhase hSound hTask (by simp [hSends]) ?_
        intro hWaiting t' task' hAt hWaits hSocket
        cases ok with
        | false => cases hWaiting
        | true =>
          refine absurd ?_ (hOk task' (mem_of_getElem? hAt) hWaits)
          rw [hTask, hSocket]
          rfl
      next => cases hStep
    next => cases hStep
  | recv =>
    rw [step] at hStep
    split at hStep
    next task hTask =>
      split at hStep
      next => cases hStep
      next datagram rest hBuffer =>
        split at hStep
        next hWaits =>
          cases hStep
          exact sound_take hSound hTask hWaits datagram rest
        next => cases hStep
    next => cases hStep
  | expire =>
    rw [step] at hStep
    split at hStep
    next task hTask =>
      split at hStep
      next hWaits =>
        cases hStep
        exact sound_setPhase hSound hTask (by simp [hWaits]) nofun
      next => cases hStep
    next => cases hStep

/-
  In every run in which a task begins to wait only where no other task waits, each datagram that
  was taken while tasks waited for it was taken by its task, which returns it.
-/
theorem replies_kept_of_alone
    (hRun : Reaches step Alone init s) :
    s.Kept :=
  (hRun.invariant ⟨nofun, nofun⟩ fun hSound hOk hStep => sound_step hSound hOk hStep).kept

def replyTo (id : UInt8) : Bytes :=
  [0, id, 0x81, 0x80, 0, 1, 0, 0, 0, 0, 0, 0, 1, 97, 0, 0, 0, 1, 0]

def lookupOf (id : UInt16) : Lookup where
  id := id
  name := [97]
  qtype := 1

/- One lookup behind the other, on the same socket. -/
theorem two_lookups_in_turn :
  ∃ s : Sockets, s.taken.map Reception.expected = [[0], [6]] ∧ s.Kept := by
  rcases exists_reaches step Alone init
    (fun s => decide (s.taken.map Reception.expected = [[0], [6]]))
    [.start (lookupOf 1) .antiSanction, .send 0 true, .arrive 0 (replyTo 1), .recv 0, .await 0,
      .start (lookupOf 2) .antiSanction, .send 6 true,
      .arrive 0 (replyTo 2), .recv 6]
    (by decide +kernel) (by decide +kernel) with
    ⟨s, hRun, hEnd⟩
  exact ⟨s, of_decide_eq_true hEnd, replies_kept_of_alone hRun⟩

/-
  The first lookup is over with the answer of another socket, and its task drops the reply to the
  second lookup.
-/
theorem reply_is_stolen : ¬ ∀ s, Reaches step Always init s → s.Kept := by
  intro hAll
  rcases exists_reaches step Always init
    (fun s => decide (s.taken.map (fun r => (r.task, r.expected)) = [(0, [0]), (1, [7])]))
    [.start (lookupOf 1) .antiSanction, .send 0 true, .send 1 true,
      .arrive 0 (replyTo 1), .recv 0, .await 0,
      .start (lookupOf 2) .antiSanction, .send 7 true,
      .arrive 1 (replyTo 2), .recv 1]
    (taken_always _ _ _) (by decide +kernel) with
    ⟨s, hRun, hEnd⟩
  have hTaken := of_decide_eq_true hEnd
  have hMem : (1, [7]) ∈ s.taken.map fun r => (r.task, r.expected) := by
    rw [hTaken]
    decide
  rcases mem_map.mp hMem with ⟨r, hIn, hPair⟩
  have hOwn := hAll s hRun r hIn 7 (by
    rw [show r.expected = [7] from congrArg Prod.snd hPair]
    decide)
  rw [show r.task = 1 from congrArg Prod.fst hPair] at hOwn
  exact absurd hOwn.1 (by decide)

end Sockets

end Kourosh.SmartDns
