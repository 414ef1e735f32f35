import Kourosh.Lib.Run
import Kourosh.Lib.Threads

/-
  A pool of threads over one shared state.

  Every job has a thread of its own, and a forked job gets a new one.
-/

-- One Job Alone

namespace Job

variable {ρ α σ : Type}

def isDone : Job ρ α → Bool
| .done => true
| _ => false

/- The shared state at the end of a job that nobody disturbs. -/
def play (exec : α → σ → Nat × σ) : Job ρ α → σ → σ
| .done, s => s
| .act action next, s => play exec (next (exec action s).1) (exec action s).2
| .call next, s => play exec (next true) s
| .wait next, s => play exec next s
| .fork _ _ next, s => play exec next s

end Job

-- The Pool

structure Pool (ρ α σ : Type) where
  shared : σ
  threads : List (ρ × Job ρ α)

namespace Pool

variable {ρ α σ : Type}

def spawn (s : Pool ρ α σ) (role : ρ) (job : Job ρ α) : Pool ρ α σ :=
  { s with threads := s.threads ++ [(role, job)] }

def resume (s : Pool ρ α σ) (i : Nat) (role : ρ) (job : Job ρ α) : Pool ρ α σ :=
  { s with threads := s.threads.set i (role, job) }

def run (exec : α → σ → Nat × σ) (s : Pool ρ α σ) (i : Nat) (ok : Bool) : Option (Pool ρ α σ) :=
  match s.threads[i]? with
  | none => none
  | some (_, .done) => none
  | some (role, .act action next) =>
    let result := exec action s.shared
    some { s.resume i role (next result.1) with shared := result.2 }
  | some (role, .call next) => some (s.resume i role (next ok))
  | some (role, .wait next) => some (s.resume i role next)
  | some (role, .fork other job next) => some ((s.resume i role next).spawn other job)

def Alone (s : Pool ρ α σ) (i : Nat) : Prop :=
  ∀ entry ∈ s.threads.zipIdx, entry.2 ≠ i → entry.1.2.isDone = true

instance Alone.decidable (s : Pool ρ α σ) (i : Nat) : Decidable (s.Alone i) :=
  inferInstanceAs (Decidable (∀ entry ∈ s.threads.zipIdx, entry.2 ≠ i → entry.1.2.isDone = true))

def Without (s : Pool ρ α σ) (role : ρ) : Prop :=
  ∀ thread ∈ s.threads, thread.1 = role → thread.2.isDone = true

instance Without.decidable [DecidableEq ρ] (s : Pool ρ α σ) (role : ρ) :
  Decidable (s.Without role) :=
  inferInstanceAs (Decidable (∀ thread ∈ s.threads, thread.1 = role → thread.2.isDone = true))

def Single (s : Pool ρ α σ) (role : ρ) : Prop :=
  ∀ ⦃i j : Nat⦄ ⦃first second : ρ × Job ρ α⦄,
    s.threads[i]? = some first → s.threads[j]? = some second →
    first.1 = role → second.1 = role →
    first.2.isDone = false → second.2.isDone = false → i = j

variable {s : Pool ρ α σ} {thread : ρ × Job ρ α} {exec : α → σ → Nat × σ}
variable {i : Nat}

lemma Alone.isDone {j : Nat} (hAlone : s.Alone i) (hOther : j ≠ i)
  (hThread : s.threads[j]? = some thread) : thread.2.isDone :=
  hAlone (thread, j) (List.mem_zipIdx_iff_getElem?.mpr hThread) hOther

lemma shared_run {s' : Pool ρ α σ} {ok : Bool} (hRun : s.run exec i ok = some s') :
  s'.shared = s.shared ∨ ∃ role action next, s.threads[i]? = some (role, .act action next) ∧
  s'.shared = (exec action s.shared).2 := by
  unfold run at hRun
  split at hRun
  · cases hRun
  · cases hRun
  next role action next hThread =>
    cases hRun
    exact .inr ⟨role, action, next, hThread, rfl⟩
  all_goals
    cases hRun
    exact .inl rfl

section

variable (hThread : s.threads[i]? = some thread) (role : ρ) (job : Job ρ α)

include hThread

lemma getElem?_resume : (s.resume i role job).threads[i]? = some (role, job) :=
  List.getElem?_set_self (List.getElem?_eq_some_iff.mp hThread).1

end

end Pool

-- Assertions And Interference

section Assertions

variable {ρ α σ : Type} (exec : α → σ → Nat × σ) (Pre : ρ → α → σ → Prop)
variable (Rely : ρ → σ → σ → Prop) (Forks : ρ → ρ → Prop)

/-
  What a thread asserts before each of its statements holds, if the others change the shared state
  as it relies on.
-/
def Job.Sat : Job ρ α → ρ → σ → Prop
| .done, _, _ => True
| .act action next, role, s =>
  ∀ s', Rely role s s' → Pre role action s' ∧
    Job.Sat (next (exec action s').1) role (exec action s').2
| .call next, role, s => ∀ ok, Job.Sat (next ok) role s
| .wait next, role, s => Job.Sat next role s
| .fork other job next, role, s =>
  Forks role other ∧ ∀ s', Rely role s s' → Job.Sat job other s' ∧ Job.Sat next role s'

def Job.Holds (role : ρ) (A : σ → Prop) (job : Job ρ α) : Prop :=
  ∀ s, A s → job.Sat exec Pre Rely Forks role s

def Job.Stable (role : ρ) (A : σ → Prop) : Prop := ∀ s s', A s → Rely role s s' → A s'

def Pool.Sat (s : Pool ρ α σ) : Prop := ∀ thread ∈ s.threads,
  thread.2.Sat exec Pre Rely Forks thread.1 s.shared

variable {exec Pre Rely Forks}

namespace Job

variable {role : ρ} {A : σ → Prop}

lemma holds_done : Holds exec Pre Rely Forks role A .done := fun _ _ => trivial

variable {job : Job ρ α}

lemma Holds.mono {A' : σ → Prop} (hHolds : job.Holds exec Pre Rely Forks role A)
  (hImp : ∀ s, A' s → A s) : job.Holds exec Pre Rely Forks role A' :=
  fun s hA => hHolds s (hImp s hA)

lemma holds_act
  {action : α} {next : Nat → Job ρ α} {B : Nat → σ → Prop} (hStable : Stable Rely role A)
  (hAct : ∀ s, A s → Pre role action s ∧ B (exec action s).1 (exec action s).2)
  (hNext : ∀ v, (next v).Holds exec Pre Rely Forks role (B v)) :
  Holds exec Pre Rely Forks role A (.act action next) := by
  intro s hA s' hRely
  rcases hAct s' (hStable s s' hA hRely) with ⟨hPre, hB⟩
  exact ⟨hPre, hNext _ _ hB⟩

lemma holds_fork
  {other : ρ} {next : Job ρ α} (hForks : Forks role other) (hStable : Stable Rely role A)
  (hJob : job.Holds exec Pre Rely Forks other A) (hNext : next.Holds exec Pre Rely Forks role A) :
  Holds exec Pre Rely Forks role A (.fork other job next) := by
  intro s hA
  refine ⟨hForks, ?_⟩
  intro s' hRely
  have hStill := hStable s s' hA hRely
  exact ⟨hJob s' hStill, hNext s' hStill⟩

lemma sat_of_rely (hTrans : ∀ {a b c : σ}, Rely role a b → Rely role b c → Rely role a c)
  {s s' : σ} (hSat : job.Sat exec Pre Rely Forks role s)
  (hRely : Rely role s s') : job.Sat exec Pre Rely Forks role s' := by
  induction job with
  | done => trivial
  | act =>
    intro s'' hMore
    exact hSat s'' (hTrans hRely hMore)
  | call _ ih => exact fun ok => ih ok (hSat ok)
  | wait _ ih => exact ih hSat
  | fork =>
    refine ⟨hSat.1, ?_⟩
    intro s'' hMore
    exact hSat.2 s'' (hTrans hRely hMore)

end Job

namespace Pool

variable {s s' : Pool ρ α σ} {i : Nat} {ok : Bool}

lemma sat_getElem? (hSat : s.Sat exec Pre Rely Forks) {thread : ρ × Job ρ α}
  (hThread : s.threads[i]? = some thread) : thread.2.Sat exec Pre Rely Forks thread.1 s.shared :=
  hSat thread (List.mem_of_getElem? hThread)

variable {other role : ρ} {action : α} {next : Nat → Job ρ α} {job : Job ρ α}

section

variable (hSat : s.Sat exec Pre Rely Forks)

include hSat

lemma pre_of_sat (hRefl : ∀ role, Rely role s.shared s.shared)
  (hThread : s.threads[i]? = some (role, .act action next)) : Pre role action s.shared :=
  (sat_getElem? hSat hThread s.shared (hRefl role)).1

section

variable (hJob : job.Sat exec Pre Rely Forks role s.shared)

include hJob

lemma sat_spawn : (s.spawn role job).Sat exec Pre Rely Forks := by
  intro thread hMem
  rcases List.mem_append.mp hMem with hOld | hNew
  · exact hSat thread hOld
  · rw [List.mem_singleton.mp hNew]
    exact hJob

lemma sat_resume : (s.resume i role job).Sat exec Pre Rely Forks := by
  intro thread hMem
  rcases List.mem_or_eq_of_mem_set hMem with hOld | rfl
  · exact hSat thread hOld
  · exact hJob

end

lemma sat_shared
  (hTrans : ∀ {role : ρ} {a b c : σ}, Rely role a b → Rely role b c → Rely role a c) {shared : σ}
  (hRely : ∀ thread ∈ s.threads, thread.2.isDone = false → Rely thread.1 s.shared shared) :
  Pool.Sat exec Pre Rely Forks { s with shared := shared } := by
  intro thread hMem
  cases hDone : thread.2.isDone with
  | false => exact Job.sat_of_rely hTrans (hSat thread hMem) (hRely thread hMem hDone)
  | true =>
    rcases thread with ⟨role, job⟩
    cases job with
    | done => trivial
    | _ => cases hDone

variable (hRefl : ∀ role, Rely role s.shared s.shared)
  (hTrans : ∀ {role : ρ} {a b c : σ}, Rely role a b → Rely role b c → Rely role a c)

include hRefl hTrans

lemma sat_act (hThread : s.threads[i]? = some (role, .act action next)) (hGuar :
  ∀ {j : Nat} {thread : ρ × Job ρ α},
    j ≠ i → s.threads[j]? = some thread → thread.2.isDone = false → Rely thread.1 s.shared
      (exec action s.shared).2) : Pool.Sat exec Pre Rely Forks
  { s.resume i role (next (exec action s.shared).1) with shared := (exec action s.shared).2 } := by
  intro thread hMem
  rcases List.mem_iff_getElem?.mp hMem with ⟨j, hGet⟩
  by_cases hSame : j = i
  · -- the thread itself
    have hOwn := (sat_getElem? hSat hThread s.shared (hRefl role)).2
    rw [hSame] at hGet
    have hNext := getElem?_resume hThread role (next (exec action s.shared).1)
    cases hNext.symm.trans hGet
    exact hOwn
  · have hOld : s.threads[j]? = some thread := by
      simpa only [resume, List.getElem?_set_ne (Ne.symm hSame)] using hGet
    have hBefore := sat_getElem? hSat hOld
    cases hDone : thread.2.isDone with
    | false => exact Job.sat_of_rely hTrans hBefore (hGuar hSame hOld hDone)
    | true =>
      rcases thread with ⟨other, job⟩
      cases job with
      | done => trivial
      | _ => cases hDone

/-
  A step of any thread keeps all assertions, if its statement is one that the threads that are not
  done rely on.
-/
lemma sat_run (hGuar : ∀ {role : ρ} {action : α} {next : Nat → Job ρ α}, s.threads[i]? =
  some (role, .act action next) → Pre role action s.shared → ∀ {j : Nat} {thread : ρ × Job ρ α},
  j ≠ i → s.threads[j]? = some thread → thread.2.isDone = false → Rely thread.1 s.shared
  (exec action s.shared).2) (hRun : s.run exec i ok = some s') : s'.Sat exec Pre Rely Forks := by
  unfold run at hRun
  split at hRun
  · cases hRun
  · cases hRun
  next role action next hThread =>
    cases hRun
    exact sat_act hSat hRefl hTrans hThread (hGuar hThread (pre_of_sat hSat hRefl hThread))
  next role next hThread =>
    cases hRun
    exact sat_resume hSat (sat_getElem? hSat hThread ok)
  next role next hThread =>
    cases hRun
    exact sat_resume hSat (sat_getElem? hSat hThread)
  next role other job next hThread =>
    cases hRun
    have hOwn := (sat_getElem? hSat hThread).2 s.shared (hRefl role)
    exact sat_spawn (sat_resume hSat hOwn.2) hOwn.1

end

lemma single_spawn (hSingle : s.Single role)
  (job : Job ρ α) (hOther : other = role → s.Without role) : (s.spawn other job).Single role := by
  have hAt : ∀ {k : Nat} {thread : ρ × Job ρ α}, (s.spawn other job).threads[k]? = some thread →
    s.threads[k]? = some thread ∨ k = s.threads.length ∧ thread = (other, job) := by
    intro k thread hGet
    rcases Nat.lt_trichotomy k s.threads.length with hOld | hNew | _
    · left
      rwa [spawn, List.getElem?_append_left hOld] at hGet
    · right
      refine ⟨hNew, ?_⟩
      simpa [spawn, hNew] using hGet.symm
    · simp [spawn, List.getElem?_eq_none_iff.mpr
        (show (s.threads ++ [(other, job)]).length ≤ k by simp; omega)] at hGet
  intro i j first second hFirst hSecond hRole hRole' hLive hLive'
  rcases hAt hFirst with hOld | ⟨hNew, hEq⟩
  · rcases hAt hSecond with hOld' | ⟨hNew', hEq'⟩
    · exact hSingle hOld hOld' hRole hRole' hLive hLive'
    · rw [hEq'] at hRole'
      have hDone := hOther hRole' first (List.mem_of_getElem? hOld) hRole
      rw [hLive] at hDone
      cases hDone
  · rw [hEq] at hRole
    rcases hAt hSecond with hOld' | ⟨hNew', _⟩
    · have hDone := hOther hRole second (List.mem_of_getElem? hOld') hRole'
      rw [hLive'] at hDone
      cases hDone
    · rw [hNew, hNew']

lemma single_resume {old : Job ρ α} (hSingle : s.Single role)
  (hThread : s.threads[i]? = some (other, old)) (hLive : old.isDone = false) :
  (s.resume i other job).Single role := by
  have hAt : ∀ {k : Nat} {thread : ρ × Job ρ α}, (s.resume i other job).threads[k]? = some thread →
    thread.2.isDone = false →
    ∃ before, s.threads[k]? = some before ∧ before.1 = thread.1 ∧ before.2.isDone = false := by
    intro k thread hGet hDone
    by_cases hSame : k = i
    · subst hSame
      rw [getElem?_resume hThread] at hGet
      cases hGet
      exact ⟨(other, old), hThread, rfl, hLive⟩
    · refine ⟨thread, ?_, rfl, hDone⟩
      simpa only [resume, List.getElem?_set_ne (Ne.symm hSame)] using hGet
  intro a b first second hFirst hSecond hRole hRole' hLive hLive'
  rcases hAt hFirst hLive with ⟨_, hGet, hEq, hDone⟩
  rcases hAt hSecond hLive' with ⟨_, hGet', hEq', hDone'⟩
  exact hSingle hGet hGet' (hEq.trans hRole) (hEq'.trans hRole') hDone hDone'

lemma single_run (hForks : ∀ other, ¬ Forks other role) (hSat : s.Sat exec Pre Rely Forks)
  (hSingle : s.Single role) (hRun : s.run exec i ok = some s') : s'.Single role := by
  unfold run at hRun
  split at hRun
  · cases hRun
  · cases hRun
  next other action next hThread =>
    cases hRun
    exact single_resume hSingle hThread rfl
  next other next hThread =>
    cases hRun
    exact single_resume hSingle hThread rfl
  next other next hThread =>
    cases hRun
    exact single_resume hSingle hThread rfl
  next other forked job next hThread =>
    cases hRun
    have hForked := (sat_getElem? hSat hThread).1
    apply single_spawn (single_resume hSingle hThread rfl)
    intro hRole
    rw [hRole] at hForked
    exact absurd hForked (hForks other)

end Pool

end Assertions
