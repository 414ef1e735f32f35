import Mathlib.Data.Fintype.Defs

/-
  Threads that run queues of jobs over one shared state.

  A job is a tree of statements.
-/

-- Jobs And Queues

inductive Job (ι α : Type) where
  | done
  | act (action : α) (next : Nat → Job ι α)
  | call (next : Bool → Job ι α)
  | wait (next : Job ι α)
  | fork (thread : ι) (job next : Job ι α)

structure Threads (ι α σ : Type) where
  shared : σ
  queues : ι → List (Job ι α)

namespace Threads

open Function

variable {ι α σ : Type}

def All (s : Threads ι α σ) (P : Job ι α → Prop) : Prop := ∀ thread, ∀ job ∈ s.queues thread, P job

variable {s : Threads ι α σ} {P : Job ι α → Prop} {thread : ι} {job : Job ι α}

lemma all_tail {rest : List (Job ι α)} (hAll : s.All P)
  (hQueue : s.queues thread = job :: rest) : P job ∧ ∀ other ∈ rest, P other := by
  constructor
  · exact hAll thread job (by simp [hQueue])
  · intro other hMem
    exact hAll thread other (by simp [hQueue, hMem])

variable [DecidableEq ι]

def resume (s : Threads ι α σ) (thread : ι) (queue : List (Job ι α)) : Threads ι α σ :=
  { s with queues := update s.queues thread queue }

def enqueue (s : Threads ι α σ) (thread : ι) (job : Job ι α) : Threads ι α σ :=
  s.resume thread (s.queues thread ++ [job])

def run (exec : α → σ → Nat × σ) (s : Threads ι α σ) (thread : ι)
  (ok : Bool) : Option (Threads ι α σ) :=
  match s.queues thread with
  | [] => none
  | .done :: rest => some (s.resume thread rest)
  | .act action next :: rest =>
    let result := exec action s.shared
    some { shared := result.2, queues := update s.queues thread (next result.1 :: rest) }
  | .call next :: rest => some (s.resume thread (next ok :: rest))
  | .wait next :: rest => some (s.resume thread (next :: rest))
  | .fork other job next :: rest => some ((s.resume thread (next :: rest)).enqueue other job)

lemma all_resume {queue : List (Job ι α)}
  (hAll : s.All P) (hQueue : ∀ job ∈ queue, P job) : (s.resume thread queue).All P := by
  intro other job hMem
  by_cases hSame : other = thread
  · rw [hSame] at hMem
    simp only [resume, update_self] at hMem
    exact hQueue job hMem
  · simp only [resume, update_of_ne hSame] at hMem
    exact hAll other job hMem

lemma all_enqueue (hAll : s.All P) (hTask : P job) (thread : ι) : (s.enqueue thread job).All P := by
  apply all_resume hAll
  exact List.forall_mem_append.mpr ⟨hAll thread, List.forall_mem_singleton.mpr hTask⟩

end Threads

-- Jobs From Other Jobs

namespace Job

variable {ι κ α β : Type}

/-
  The statements of a job over other threads and statements; those that have no counterpart are
  left out.
-/
def translate (place : ι → κ) (f : α → Option β) : Job ι α → Job κ β
| .done => .done
| .act action next =>
  match f action with
  | none => translate place f (next 0)
  | some other => .act other fun v => translate place f (next v)
| .call next => .call fun ok => translate place f (next ok)
| .wait next => .wait (translate place f next)
| .fork thread job next => .fork (place thread) (translate place f job) (translate place f next)

def Only (P : α → Prop) : Job ι α → Prop
| .done => True
| .act action next => P action ∧ ∀ v, Only P (next v)
| .call next => ∀ ok, Only P (next ok)
| .wait next => Only P next
| .fork _ job next => Only P job ∧ Only P next

def andThen : Job ι α → Job ι α → Job ι α
| .done, last => last
| .act action next, last => .act action fun v => andThen (next v) last
| .call next, last => .call fun ok => andThen (next ok) last
| .wait next, last => .wait (andThen next last)
| .fork thread job next, last => .fork thread job (andThen next last)

end Job

-- Jobs That Fit The State

namespace Threads

variable {ι α σ : Type}

def Others (s : Threads ι α σ) (thread : ι) (P : Job ι α → Prop) : Prop :=
  (∀ job ∈ (s.queues thread).tail, P job) ∧ ∀ other, other ≠ thread → ∀ job ∈ s.queues other, P job

instance Others.decidable [DecidableEq ι] [Fintype ι] {P : Job ι α → Prop}
  [DecidablePred P] (s : Threads ι α σ) (thread : ι) : Decidable (s.Others thread P) :=
  inferInstanceAs (Decidable ((∀ job ∈ (s.queues thread).tail, P job) ∧
    ∀ other, other ≠ thread → ∀ job ∈ s.queues other, P job))

variable {P Q : Job ι α → Prop} {thread : ι}

section

variable {s : Threads ι α σ}

lemma Others.imp (hOthers : s.Others thread P) (hImp : ∀ job, P job → Q job) : s.Others thread Q :=
  ⟨fun job hMem => hImp job (hOthers.1 job hMem),
    fun other hOther job hMem => hImp job (hOthers.2 other hOther job hMem)⟩

lemma All.others (hAll : s.All P) (thread : ι) : s.Others thread P :=
  ⟨fun job hMem => hAll thread job (List.mem_of_mem_tail hMem), fun other _ => hAll other⟩

lemma Others.and (hLeft : s.Others thread P)
  (hRight : s.Others thread Q) : s.Others thread fun job => P job ∧ Q job :=
  ⟨fun job hMem => ⟨hLeft.1 job hMem, hRight.1 job hMem⟩,
    fun other hOther job hMem => ⟨hLeft.2 other hOther job hMem, hRight.2 other hOther job hMem⟩⟩

end

variable {exec : α → σ → Nat × σ} [DecidableEq ι] {s s' : Threads ι α σ}

/- A condition on the queued jobs that depends on the shared state. -/
lemma fits_run {Fits : σ → Job ι α → Prop}
  {ok : Bool} (hFits : s.All (Fits s.shared)) (hRun : s.run exec thread ok = some s')
  (hCall : ∀ {next}, Fits s.shared (.call next) → Fits s.shared (next ok))
  (hWait : ∀ {next}, Fits s.shared (.wait next) → Fits s.shared next)
  (hFork : ∀ {other job next}, Fits s.shared (.fork other job next) →
  Fits s.shared job ∧ Fits s.shared next) (hAct : ∀ {action next rest}, s.queues thread =
  .act action next :: rest → Fits (exec action s.shared).2 (next (exec action s.shared).1) ∧
  s.Others thread (Fits (exec action s.shared).2)) : s'.All (Fits s'.shared) := by
  unfold run at hRun
  split at hRun
  · cases hRun
  next rest hQueue =>
    cases hRun
    exact all_resume hFits (all_tail hFits hQueue).2
  next action next rest hQueue =>
    cases hRun
    rcases hAct hQueue with ⟨hNext, hTail, hOthers⟩
    intro other job hMem
    by_cases hSame : other = thread
    · rw [hSame] at hMem
      simp only [Function.update_self] at hMem
      rcases List.mem_cons.mp hMem with hHead | hRest
      · rw [hHead]
        exact hNext
      · apply hTail
        rw [hQueue]
        exact hRest
    · simp only [Function.update_of_ne hSame] at hMem
      exact hOthers other hSame job hMem
  next next rest hQueue =>
    cases hRun
    rcases all_tail hFits hQueue with ⟨hHead, hRest⟩
    apply all_resume hFits
    exact List.forall_mem_cons.mpr ⟨hCall hHead, hRest⟩
  next next rest hQueue =>
    cases hRun
    rcases all_tail hFits hQueue with ⟨hHead, hRest⟩
    apply all_resume hFits
    exact List.forall_mem_cons.mpr ⟨hWait hHead, hRest⟩
  next other job next rest hQueue =>
    cases hRun
    rcases all_tail hFits hQueue with ⟨hHead, hRest⟩
    rcases hFork hHead with ⟨hJob, hNext⟩
    apply all_enqueue _ hJob
    apply all_resume hFits
    exact List.forall_mem_cons.mpr ⟨hNext, hRest⟩

end Threads

-- Promises

section Promises

variable {ι α σ : Type} (exec : α → σ → Nat × σ) (Active Good : σ → Prop)

/-
  The statements of a job keep an active promise, as long as its calls succeed and nothing it
  waits for comes back.
-/
def Job.Keeps : Job ι α → Prop
| .done => True
| .act action next =>
  ∀ s : σ, Active s → Good s → Active (exec action s).2 →
    Good (exec action s).2 ∧ Job.Keeps (next (exec action s).1)
| .call next => Job.Keeps (next true)
| .wait _ => True
| .fork _ job next => Job.Keeps job ∧ Job.Keeps next

def Job.Behind (makes : α → Prop) : Job ι α → Prop
| .done => True
| .act action next =>
  (makes action → ∀ v, Job.Keeps exec Active Good (next v)) ∧ ∀ v, Job.Behind makes (next v)
| .call next => ∀ ok, Job.Behind makes (next ok)
| .wait next => Job.Behind makes next
| .fork _ job next => Job.Behind makes job ∧ Job.Behind makes next

namespace Threads

variable (makes : α → Prop)

structure Promised (s : Threads ι α σ) : Prop where
  behind : s.All (Job.Behind exec Active Good makes)
  good : Active s.shared → Good s.shared
  keeps : Active s.shared → s.All (Job.Keeps exec Active Good)

def Makes (s : Threads ι α σ) (thread : ι) : Prop :=
  match s.queues thread with
  | .act action _ :: _ => makes action
  | _ => False

def Calm (s : Threads ι α σ) (thread : ι) (ok : Bool) : Bool :=
  match s.queues thread with
  | .call _ :: _ => ok
  | .wait _ :: _ => false
  | _ => true

def Alone (s : Threads ι α σ) (thread : ι) : Prop :=
  (s.queues thread).length = 1 ∧ ∀ other, other ≠ thread → s.queues other = []

def Idle (s : Threads ι α σ) : Prop := ∀ thread, s.queues thread = []

variable {exec Active Good makes} [DecidableEq ι] {s s' : Threads ι α σ}

instance Makes.decidable [DecidablePred makes] (thread : ι) : Decidable (s.Makes makes thread) := by
  unfold Makes
  split <;> infer_instance

instance Alone.decidable [Fintype ι] (thread : ι) : Decidable (s.Alone thread) :=
  inferInstanceAs (Decidable ((s.queues thread).length = 1 ∧
    ∀ other, other ≠ thread → s.queues other = []))

instance Idle.decidable [Fintype ι] : Decidable s.Idle :=
  inferInstanceAs (Decidable (∀ thread, s.queues thread = []))

variable {thread : ι}

lemma promised_enqueue {job : Job ι α} (hPromised : s.Promised exec Active Good makes)
  (hBehind : Job.Behind exec Active Good makes job)
  (hKeeps : Active s.shared → Job.Keeps exec Active Good job) :
  (s.enqueue thread job).Promised exec Active Good makes where
  behind := all_enqueue hPromised.behind hBehind thread
  good := hPromised.good
  keeps := fun hActive =>
    all_enqueue (hPromised.keeps hActive) (hKeeps hActive) thread

lemma promised_resume {queue : List (Job ι α)} (hPromised : s.Promised exec Active Good makes)
  (hBehind : ∀ job ∈ queue, Job.Behind exec Active Good makes job)
  (hKeeps : Active s.shared → ∀ job ∈ queue, Job.Keeps exec Active Good job) :
  (s.resume thread queue).Promised exec Active Good makes where
  behind := all_resume hPromised.behind hBehind
  good := hPromised.good
  keeps := fun hActive => all_resume (hPromised.keeps hActive) (hKeeps hActive)

lemma promised_act {action : α} {next : Nat → Job ι α} {rest : List (Job ι α)}
  (hMakes : ∀ (action : α) (state : σ),
    ¬ makes action → ¬ Active state → ¬ Active (exec action state).2)
  (hPromised : s.Promised exec Active Good makes)
  (hQueue : s.queues thread = .act action next :: rest)
  (hMade : ¬ Active s.shared → makes action → Good (exec action s.shared).2 ∧ s.Alone thread) :
  Promised exec Active Good makes
    { shared := (exec action s.shared).2
      queues := Function.update s.queues thread (next (exec action s.shared).1 :: rest) } := by
  have hOwn := all_tail hPromised.behind hQueue
  have hBehind : Threads.All
    { shared := (exec action s.shared).2,
      queues := Function.update s.queues thread (next (exec action s.shared).1 :: rest) }
    (Job.Behind exec Active Good makes) := by
    exact all_resume hPromised.behind (List.forall_mem_cons.mpr ⟨hOwn.1.2 _, hOwn.2⟩)
  by_cases hActive : Active s.shared
  · have hKept := all_tail (hPromised.keeps hActive) hQueue
    have hStep := hKept.1 s.shared hActive (hPromised.good hActive)
    refine ⟨hBehind, fun hAfter => (hStep hAfter).1, ?_⟩
    intro hAfter
    exact all_resume (hPromised.keeps hActive)
      (List.forall_mem_cons.mpr ⟨(hStep hAfter).2, hKept.2⟩)
  · by_cases hMake : makes action
    · rcases hMade hActive hMake with ⟨hGood, hAlone⟩
      refine ⟨hBehind, fun _ => hGood, ?_⟩
      -- only the rest of this job is left anywhere
      intro _ other job hMem
      by_cases hSame : other = thread
      · have hRest : rest = [] := by
          have hLength := hAlone.1
          rw [hQueue] at hLength
          simpa using hLength
        rw [hSame, hRest] at hMem
        simp only [Function.update_self, List.mem_singleton] at hMem
        rw [hMem]
        exact hOwn.1.1 hMake _
      · simp only [Function.update_of_ne hSame, hAlone.2 other hSame] at hMem
        cases hMem
    · have hAfter := hMakes action s.shared hMake hActive
      exact ⟨hBehind, fun h => absurd h hAfter, fun h => absurd h hAfter⟩

/-
  A step of any thread keeps the promise, if calls succeed while it is active, and if it is made
  by a thread that is alone.
-/
lemma promised_run {ok : Bool} (hMakes : ∀ (action : α) (state : σ), ¬ makes action →
  ¬ Active state → ¬ Active (exec action state).2) (hPromised : s.Promised exec Active Good makes)
  (hCalm : Active s.shared → s.Calm thread ok) (hMade : ¬ Active s.shared →
  s.Makes makes thread → s.Alone thread ∧ ∀ s', s.run exec thread ok = some s' → Good s'.shared)
  (hRun : s.run exec thread ok = some s') : s'.Promised exec Active Good makes := by
  unfold run at hRun
  split at hRun
  · cases hRun
  next rest hQueue =>
    cases hRun
    exact promised_resume hPromised (all_tail hPromised.behind hQueue).2
      fun hActive => (all_tail (hPromised.keeps hActive) hQueue).2
  next action next rest hQueue =>
    cases hRun
    apply promised_act hMakes hPromised hQueue
    intro hActive hMake
    have hNext : s.Makes makes thread := by
      rw [Makes, hQueue]
      exact hMake
    rcases hMade hActive hNext with ⟨hAlone, hGood⟩
    refine ⟨?_, hAlone⟩
    exact hGood
      { shared := (exec action s.shared).2,
        queues := Function.update s.queues thread (next (exec action s.shared).1 :: rest) }
      (by unfold run; rw [hQueue])
  next next rest hQueue =>
    cases hRun
    have hOwn := all_tail hPromised.behind hQueue
    apply promised_resume hPromised (List.forall_mem_cons.mpr ⟨hOwn.1 ok, hOwn.2⟩)
    intro hActive
    have hKept := all_tail (hPromised.keeps hActive) hQueue
    have hOk : ok := by
      have hHead := hCalm hActive
      rw [Calm, hQueue] at hHead
      exact hHead
    rw [hOk]
    exact List.forall_mem_cons.mpr hKept
  next next rest hQueue =>
    cases hRun
    have hOwn := all_tail hPromised.behind hQueue
    refine promised_resume hPromised (List.forall_mem_cons.mpr hOwn) ?_
    intro hActive job hMem
    have hHead := hCalm hActive
    rw [Calm, hQueue] at hHead
    cases hHead
  next other job next rest hQueue =>
    cases hRun
    have hOwn := all_tail hPromised.behind hQueue
    have hMoved : (s.resume thread (next :: rest)).Promised exec Active Good makes := by
      apply promised_resume hPromised (List.forall_mem_cons.mpr ⟨hOwn.1.2, hOwn.2⟩)
      intro hActive
      have hKept := all_tail (hPromised.keeps hActive) hQueue
      exact List.forall_mem_cons.mpr ⟨hKept.1.2, hKept.2⟩
    apply promised_enqueue hMoved hOwn.1.1
    intro hActive
    exact (all_tail (hPromised.keeps hActive) hQueue).1.1

end Threads

end Promises
