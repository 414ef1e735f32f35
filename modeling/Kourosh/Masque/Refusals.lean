import Kourosh.Basic

/-
  The refusals of a certificate before a MASQUE session gives up.

  Gateways are dialled in up to four passes, over HTTP/3 and then over HTTP/2, each once more with
  a renewed certificate.

  Main declarations
    * `runMasque` : the passes, as a log of dials and renewals
    * `OnEvidence` : a certificate is given up on enough refusals only
    * `Env.Settled` : no pass that is run ends short of the limit where that counts

  Correctness is proven by:
    * `gives_up_on_evidence_iff`
-/

-- The Passes

namespace Kourosh.Masque.Refusals

open List

def identityRejectedLimit : Nat := 2

inductive PeerOutcome where
  | accepted
  | identityRejected
  | unreachable
deriving DecidableEq

inductive PassOutcome where
  | connected (peer : SocketAddr)
  | identityRejected (count : Nat)
  | exhausted

inductive Event where
  | dial (cert : Nat) (peer : SocketAddr) (outcome : PeerOutcome)
  | renew (cert : Nat)
deriving DecidableEq

def dialMasquePassFrom (outcome : SocketAddr → PeerOutcome) (cert : Nat) :
  Nat → List SocketAddr → PassOutcome × List Event
| rejections, [] => (if 0 < rejections then .identityRejected rejections else .exhausted, [])
| rejections, peer :: peers =>
  let event := Event.dial cert peer (outcome peer)
  let onwards (rejections : Nat) :=
    let next := dialMasquePassFrom outcome cert rejections peers
    (next.1, event :: next.2)
  match outcome peer with
  | .accepted => (.connected peer, [event])
  | .identityRejected =>
    if rejections + 1 ≥ identityRejectedLimit then (.identityRejected (rejections + 1), [event])
    else onwards (rejections + 1)
  | .unreachable => onwards rejections

inductive Pass where
  | h3
  | h3Renewed
  | h2
  | h2Renewed
deriving DecidableEq

structure Env where
  h3Candidates : List SocketAddr
  known : List SocketAddr
  outcome : Pass → SocketAddr → PeerOutcome
  issued : Pass → Bool
  h2Enabled : Bool

inductive Step where
  | quick (peer : SocketAddr)
  | failed (count : Nat)
  | onwards
deriving DecidableEq

structure Stage where
  step : Step
  cert : Nat
  carried : Nat
  log : List Event

/- `refresh_refused_masque_identity` behind a pass, and the pass that follows it. -/
def renewAndDial (env : Env) (pass : Pass) (candidates : List SocketAddr) (cert count : Nat)
  (log : List Event) : Stage :=
  if env.issued pass then
    let again := dialMasquePassFrom (env.outcome pass) (cert + 1) 0 candidates
    let step := match again.1 with
      | .connected peer => .quick peer
      | .identityRejected count => .failed count
      | .exhausted => .onwards
    ⟨step, cert + 1, 0, log ++ .renew cert :: again.2⟩
  else ⟨.failed count, cert, 0, log ++ [.renew cert]⟩

def firstPass (env : Env) : Stage :=
  let first := dialMasquePassFrom (env.outcome .h3) 0 0 env.h3Candidates
  match first.1 with
  | .connected peer => ⟨.quick peer, 0, 0, first.2⟩
  | .identityRejected count =>
    if count ≥ identityRejectedLimit then
      renewAndDial env .h3Renewed env.h3Candidates 0 count first.2
    else ⟨.onwards, 0, count, first.2⟩
  | .exhausted => ⟨.onwards, 0, 0, first.2⟩

def secondPass (env : Env) (s : Stage) : Stage :=
  let second := dialMasquePassFrom (env.outcome .h2) s.cert s.carried env.known
  match second.1 with
  | .connected peer => ⟨.quick peer, s.cert, 0, s.log ++ second.2⟩
  | .identityRejected count =>
    renewAndDial env .h2Renewed env.known s.cert count (s.log ++ second.2)
  | .exhausted => ⟨.onwards, s.cert, 0, s.log ++ second.2⟩

/- `run_masque` up to its scan, without a forced peer. -/
def runMasque (env : Env) : Stage :=
  let first := firstPass env
  match first.step with
  | .onwards => if env.h2Enabled then first else secondPass env first
  | _ => first

-- Evidence

def Event.refuses (cert : Nat) : Event → Bool
| .dial used _ .identityRejected => used == cert
| _ => false

def refusals (cert : Nat) (log : List Event) : Nat := log.countP (Event.refuses cert)

/- Every request for a new certificate stands behind enough refusals of the one in use. -/
def Justified (log : List Event) : Prop :=
  ∀ front cert rest, log = front ++ .renew cert :: rest →
    identityRejectedLimit ≤ refusals cert front

structure OnEvidence (s : Stage) : Prop where
  renewed : Justified s.log
  failed : ∀ count, s.step = .failed count → identityRejectedLimit ≤ refusals s.cert s.log
  few : (∀ cert, refusals cert s.log < identityRejectedLimit) →
    (∀ cert, .renew cert ∉ s.log) ∧ ∀ count, s.step ≠ .failed count

-- What The Gateways Answer

section Answers

variable (outcome : SocketAddr → PeerOutcome) (carried : Nat) (peers : List SocketAddr)

def refused : Nat := peers.countP (outcome · = .identityRejected)

def NoneAccepts : Prop := ∀ peer ∈ peers, outcome peer ≠ .accepted

/- The limit is reached before a gateway accepts. -/
def ReachesLimit : Prop :=
  identityRejectedLimit ≤ carried + refused outcome (peers.takeWhile (outcome · ≠ .accepted))

/- No gateway accepts, and some refuse, but not enough of them. -/
def EndsShort : Prop :=
  NoneAccepts outcome peers ∧ 0 < carried + refused outcome peers ∧
    carried + refused outcome peers < identityRejectedLimit

end Answers

namespace Env

variable (env : Env)

/- The refusals that the pass over HTTP/2 begins with, if it is run. -/
def Carries (carried : Nat) : Prop :=
  env.h2Enabled = false ∧
    (NoneAccepts (env.outcome .h3) env.h3Candidates ∧
        carried = refused (env.outcome .h3) env.h3Candidates ∧ carried < identityRejectedLimit ∨
      ReachesLimit (env.outcome .h3) 0 env.h3Candidates ∧ env.issued .h3Renewed = true ∧
        NoneAccepts (env.outcome .h3Renewed) env.h3Candidates ∧
        refused (env.outcome .h3Renewed) env.h3Candidates = 0 ∧ carried = 0)

structure SettledH2 (carried : Nat) : Prop where
  h2 : ¬ EndsShort (env.outcome .h2) carried env.known
  renewed : ReachesLimit (env.outcome .h2) carried env.known → env.issued .h2Renewed = true →
    ¬ EndsShort (env.outcome .h2Renewed) 0 env.known

/- None of the passes that are run behind the first one ends short of the limit. -/
structure Settled : Prop where
  renewed : ReachesLimit (env.outcome .h3) 0 env.h3Candidates → env.issued .h3Renewed = true →
    ¬ EndsShort (env.outcome .h3Renewed) 0 env.h3Candidates
  h2 : ∀ carried, env.Carries carried → env.SettledH2 carried

end Env

variable {outcome : SocketAddr → PeerOutcome} {cert other count carried : Nat}
variable {log more : List Event} {peer : SocketAddr} {peers candidates : List SocketAddr}
variable {env : Env} {pass : Pass} {s : Stage}

lemma refused_cons : refused outcome (peer :: peers) =
  refused outcome peers + if outcome peer = .identityRejected then 1 else 0 := by
  simp [refused, countP_cons]

lemma ReachesLimit.le (hLimit : ReachesLimit outcome carried peers) :
  identityRejectedLimit ≤ carried + refused outcome peers := by
  refine Nat.le_trans hLimit (Nat.add_le_add_left ?_ carried)
  exact ( takeWhile_prefix _).sublist.countP_le

/- What the result of a pass says of the answers. -/
def Ends (outcome : SocketAddr → PeerOutcome) (carried : Nat) (peers : List SocketAddr) :
  PassOutcome → Prop
| .connected _ => ¬ ReachesLimit outcome carried peers ∧ ¬ NoneAccepts outcome peers
| .identityRejected count =>
  ReachesLimit outcome carried peers ∧ identityRejectedLimit ≤ count ∨
    EndsShort outcome carried peers ∧ count = carried + refused outcome peers
| .exhausted => NoneAccepts outcome peers ∧ carried + refused outcome peers = 0

lemma reachesLimit_cons (hPeer : outcome peer ≠ .accepted) :
  ReachesLimit outcome carried (peer :: peers) ↔
    ReachesLimit outcome (carried + if outcome peer = .identityRejected then 1 else 0) peers := by
  rw [ReachesLimit, ReachesLimit, takeWhile_cons_of_pos (by simpa using hPeer), refused_cons]
  omega

lemma endsShort_cons (hPeer : outcome peer ≠ .accepted) :
  EndsShort outcome carried (peer :: peers) ↔
    EndsShort outcome (carried + if outcome peer = .identityRejected then 1 else 0) peers := by
  rw [EndsShort, EndsShort, NoneAccepts, forall_mem_cons, refused_cons]
  simp only [ne_eq, hPeer, not_false_eq_true, true_and]
  refine and_congr_right fun _ => ?_
  omega

lemma ends_cons {result : PassOutcome} (hPeer : outcome peer ≠ .accepted)
  (hEnds : Ends outcome (carried + if outcome peer = .identityRejected then 1 else 0) peers
    result) : Ends outcome carried (peer :: peers) result := by
  cases result with
  | connected =>
    refine ⟨fun hLimit => hEnds.1 ((reachesLimit_cons hPeer).mp hLimit), fun hNone => hEnds.2 ?_⟩
    exact (forall_mem_cons.mp hNone).2
  | identityRejected count =>
    rw [Ends, reachesLimit_cons hPeer, endsShort_cons hPeer, refused_cons]
    refine hEnds.imp_right fun hShort => ⟨hShort.1, ?_⟩
    have hCount := hShort.2
    omega
  | exhausted =>
    refine ⟨forall_mem_cons.mpr ⟨hPeer, hEnds.1⟩, ?_⟩
    rw [refused_cons]
    have hSum := hEnds.2
    omega

lemma ends_pass (outcome : SocketAddr → PeerOutcome) (cert : Nat) (peers : List SocketAddr)
  (hCarried : carried < identityRejectedLimit) :
  Ends outcome carried peers (dialMasquePassFrom outcome cert carried peers).1 := by
  induction peers generalizing carried with
  | nil =>
    rw [dialMasquePassFrom]
    split
    next hPos => exact .inr ⟨⟨nofun, hPos, hCarried⟩, rfl⟩
    next hZero => exact ⟨nofun, by simpa [refused] using hZero⟩
  | cons peer peers ih =>
    rw [dialMasquePassFrom]
    cases hPeer : outcome peer with
    | accepted =>
      refine ⟨?_, fun hNone => hNone peer mem_cons_self hPeer⟩
      rw [ReachesLimit, takeWhile_cons_of_neg (by simpa using hPeer)]
      exact Nat.not_le_of_lt hCarried
    | unreachable =>
      refine ends_cons (by simp [hPeer]) ?_
      rw [if_neg (by simp [hPeer])]
      exact ih hCarried
    | identityRejected =>
      have hOther : outcome peer ≠ .accepted := by simp [hPeer]
      simp only
      split
      next hLimit =>
        refine .inl ⟨?_, hLimit⟩
        rw [reachesLimit_cons hOther, if_pos hPeer, ReachesLimit]
        omega
      next hMore =>
        refine ends_cons hOther ?_
        rw [if_pos hPeer]
        exact ih (by omega)

-- What The Log Holds

lemma refusals_append (cert : Nat) (log more : List Event) :
  refusals cert (log ++ more) = refusals cert log + refusals cert more := countP_append

/- Only dials, with one certificate. -/
def Dials (cert : Nat) (log : List Event) : Prop :=
  ∀ e ∈ log, ∃ peer outcome, e = .dial cert peer outcome

lemma Dials.refusals_eq_zero (hDials : Dials cert log) (hOther : cert ≠ other) :
  refusals other log = 0 := by
  refine countP_eq_zero.mpr fun e hMem hRefuses => ?_
  rcases hDials e hMem with ⟨peer, outcome, rfl⟩
  cases outcome with
  | accepted | unreachable => cases hRefuses
  | identityRejected => exact hOther (beq_iff_eq.mp hRefuses)

lemma Justified.append (hLog : Justified log) (hDials : Dials cert more) :
  Justified (log ++ more) := by
  intro front used rest hSplit
  have hNone : .renew used ∉ more := by
    intro hMem
    rcases hDials _ hMem with ⟨_, _, hDial⟩
    cases hDial
  rcases append_eq_append_iff.mp hSplit with ⟨extra, rfl, hMore⟩ | ⟨extra, rfl, hMore⟩
  · exact absurd (hMore ▸ mem_append_right _ mem_cons_self) hNone
  · cases extra with
    | nil =>
      rw [nil_append] at hMore
      exact absurd (hMore ▸ mem_cons_self) hNone
    | cons e extra =>
      cases hMore
      exact hLog front used extra rfl

lemma Justified.renew (hLog : Justified log)
  (hEnough : identityRejectedLimit ≤ refusals cert log) : Justified (log ++ [.renew cert]) := by
  intro front used rest hSplit
  rcases append_eq_append_iff.mp hSplit with ⟨extra, rfl, hMore⟩ | ⟨extra, rfl, hMore⟩
  · cases extra with
    | nil =>
      cases hMore
      simpa using hEnough
    | cons e extra =>
      have hNone := (cons.inj hMore).2
      simp at hNone
  · cases extra with
    | nil =>
      cases hMore
      simpa using hEnough
    | cons e extra =>
      cases hMore
      exact hLog front used extra rfl

lemma Justified.enough (hLog : Justified log) (hMem : .renew cert ∈ log) :
  identityRejectedLimit ≤ refusals cert log := by
  rcases append_of_mem hMem with ⟨front, rest, rfl⟩
  rw [refusals_append]
  exact Nat.le_add_right_of_le (hLog front cert rest rfl)

/- That few refusals lead to neither follows from the other two. -/
lemma onEvidence_iff : OnEvidence s ↔ Justified s.log ∧
  ∀ count, s.step = .failed count → identityRejectedLimit ≤ refusals s.cert s.log := by
  refine ⟨fun hFair => ⟨hFair.renewed, hFair.failed⟩, fun ⟨hLog, hFailed⟩ => ⟨hLog, hFailed, ?_⟩⟩
  intro hFew
  refine ⟨fun cert hMem => ?_, fun count hStep => ?_⟩
  · exact absurd (hLog.enough hMem) (Nat.not_le_of_lt (hFew cert))
  · exact absurd (hFailed count hStep) (Nat.not_le_of_lt (hFew _))

lemma pass_spec (outcome : SocketAddr → PeerOutcome) (cert carried : Nat)
  (peers : List SocketAddr) :
  Dials cert (dialMasquePassFrom outcome cert carried peers).2 ∧
    match (dialMasquePassFrom outcome cert carried peers).1 with
    | .connected _ => True
    | .identityRejected count =>
      count = carried + refusals cert (dialMasquePassFrom outcome cert carried peers).2
    | .exhausted =>
      carried + refusals cert (dialMasquePassFrom outcome cert carried peers).2 = 0 := by
  induction peers generalizing carried with
  | nil =>
    rw [dialMasquePassFrom]
    refine ⟨nofun, ?_⟩
    by_cases hPos : 0 < carried
    · rw [if_pos hPos]
      rfl
    · rw [if_neg hPos]
      simpa [refusals] using hPos
  | cons peer peers ih =>
    rw [dialMasquePassFrom]
    cases hPeer : outcome peer with
    | accepted => exact ⟨by simp [Dials], trivial⟩
    | unreachable =>
      rcases ih carried with ⟨hDials, hCount⟩
      refine ⟨forall_mem_cons.mpr ⟨⟨_, _, rfl⟩, hDials⟩, ?_⟩
      simpa [refusals, Event.refuses] using hCount
    | identityRejected =>
      simp only
      by_cases hLimit : carried + 1 ≥ identityRejectedLimit
      · rw [if_pos hLimit]
        exact ⟨by simp [Dials], by simp [refusals, Event.refuses]⟩
      · rw [if_neg hLimit]
        rcases ih (carried + 1) with ⟨hDials, hCount⟩
        refine ⟨forall_mem_cons.mpr ⟨⟨_, _, rfl⟩, hDials⟩, ?_⟩
        simp only [refusals, countP_cons_of_pos (l := (dialMasquePassFrom outcome cert (carried + 1)
          peers).2) (a := .dial cert peer .identityRejected) (p := Event.refuses cert)
          (by simp [Event.refuses])]
        cases hPass : (dialMasquePassFrom outcome cert (carried + 1) peers).1 with
        | connected => trivial
        | identityRejected =>
          simp only [hPass] at hCount ⊢
          rw [hCount, refusals]
          omega
        | exhausted =>
          simp only [hPass] at hCount
          omega

-- What Follows A Pass

/- A renewal is fair behind enough refusals, unless the new certificate is given up for fewer. -/
lemma onEvidence_renewAndDial (hLog : Justified log) (hCount : count = refusals cert log)
  (hFresh : refusals (cert + 1) log = 0) :
  OnEvidence (renewAndDial env pass candidates cert count log) ↔
    identityRejectedLimit ≤ count ∧
      (env.issued pass = true → ¬ EndsShort (env.outcome pass) 0 candidates) := by
  rw [onEvidence_iff, renewAndDial]
  by_cases hLimit : identityRejectedLimit ≤ count
  swap
  · -- the log shows a request with too few refusals in front
    refine iff_of_false (fun hFair => hLimit ?_) fun hEnough => hLimit hEnough.1
    rw [hCount]
    split at hFair
    · exact hFair.1 log cert _ rfl
    · exact hFair.1 log cert _ rfl
  have hRenewed := hLog.renew (hCount ▸ hLimit)
  cases hIssued : env.issued pass with
  | false =>
    rw [if_neg Bool.false_ne_true]
    refine iff_of_true ⟨hRenewed, fun _ _ => ?_⟩ ⟨hLimit, nofun⟩
    rw [refusals_append, ← hCount]
    exact Nat.le_add_right_of_le hLimit
  | true =>
    rcases pass_spec (env.outcome pass) (cert + 1) 0 candidates with ⟨hDials, hRefusals⟩
    have hEnds := @ends_pass 0 (env.outcome pass) (cert + 1) candidates (by decide)
    have hAll := hRenewed.append hDials
    rw [← append_cons] at hAll
    have hSame : refusals (cert + 1) (log ++ .renew cert ::
        (dialMasquePassFrom (env.outcome pass) (cert + 1) 0 candidates).2) =
        refusals (cert + 1) (dialMasquePassFrom (env.outcome pass) (cert + 1) 0 candidates).2 := by
      rw [refusals_append, hFresh, Nat.zero_add, refusals, countP_cons_of_neg (by simp [Event.refuses])]
      rfl
    rw [if_pos rfl]
    simp only [hLimit, hAll, hSame, true_and, forall_const]
    cases hPass : (dialMasquePassFrom (env.outcome pass) (cert + 1) 0 candidates).1 with
    | connected =>
      rw [hPass] at hEnds
      exact iff_of_true nofun fun hShort => hEnds.2 hShort.1
    | exhausted =>
      rw [hPass] at hEnds
      refine iff_of_true nofun fun hShort => ?_
      have hPos := hShort.2.1
      have hZero := hEnds.2
      omega
    | identityRejected refused =>
      rw [hPass] at hEnds hRefusals
      simp only [Step.failed.injEq] at hRefusals ⊢
      rcases hEnds with ⟨hReaches, hEnough⟩ | ⟨hShort, hFew⟩
      · refine iff_of_true (fun _ _ => by omega) fun hShort => ?_
        exact Nat.not_le_of_lt hShort.2.2 hReaches.le
      · refine iff_of_false (fun hAll => ?_) fun hNot => hNot hShort
        have hEnough := hAll refused rfl
        have hLess := hShort.2.2
        omega

/- Where the pass over HTTP/2 begins. -/
structure Begins (s : Stage) : Prop where
  justified : Justified s.log
  carried : s.carried = refusals s.cert s.log
  few : s.carried < identityRejectedLimit
  fresh : refusals (s.cert + 1) s.log = 0

lemma onEvidence_secondPass (hBegins : Begins s) :
  OnEvidence (secondPass env s) ↔ env.SettledH2 s.carried := by
  rcases pass_spec (env.outcome .h2) s.cert s.carried env.known with ⟨hDials, hRefusals⟩
  have hEnds := ends_pass (env.outcome .h2) s.cert env.known hBegins.few
  have hLog := hBegins.justified.append hDials
  unfold secondPass
  cases hPass : (dialMasquePassFrom (env.outcome .h2) s.cert s.carried env.known).1 with
  | connected =>
    rw [hPass] at hEnds
    simp only [hPass]
    rw [onEvidence_iff]
    exact iff_of_true ⟨hLog, nofun⟩
      ⟨fun hShort => hEnds.2 hShort.1, fun hReaches => absurd hReaches hEnds.1⟩
  | exhausted =>
    rw [hPass] at hEnds
    simp only [hPass]
    rw [onEvidence_iff]
    have hZero := hEnds.2
    refine iff_of_true ⟨hLog, nofun⟩ ⟨fun hShort => ?_, fun hReaches => ?_⟩
    · have hPos := hShort.2.1
      omega
    · have hLimit := hReaches.le
      rw [hZero] at hLimit
      cases hLimit
  | identityRejected count =>
    rw [hPass] at hEnds hRefusals
    simp only at hRefusals
    simp only [hPass]
    have hCarried := hBegins.carried
    have hFresh := hBegins.fresh
    rw [onEvidence_renewAndDial hLog (by rw [refusals_append]; omega)
      (by rw [refusals_append, hDials.refusals_eq_zero (by omega)]; omega)]
    rcases hEnds with ⟨hReaches, hEnough⟩ | ⟨hShort, hFew⟩
    · refine ⟨fun hFair => ⟨fun hShort => ?_, fun _ => hFair.2⟩,
        fun hSettled => ⟨hEnough, hSettled.renewed hReaches⟩⟩
      exact Nat.not_le_of_lt hShort.2.2 hReaches.le
    · refine iff_of_false (fun hFair => ?_) fun hSettled => hSettled.h2 hShort
      have hLimit := hFair.1
      have hLess := hShort.2.2
      omega

/- A pass with a renewed certificate that leads onwards has met neither kind of answer. -/
lemma renewAndDial_onwards_iff :
  (renewAndDial env pass candidates cert count log).step = .onwards ↔
    env.issued pass = true ∧ NoneAccepts (env.outcome pass) candidates ∧
      refused (env.outcome pass) candidates = 0 := by
  unfold renewAndDial
  cases hIssued : env.issued pass with
  | false => simp
  | true =>
    have hEnds := @ends_pass 0 (env.outcome pass) (cert + 1) candidates (by decide)
    simp only [if_true, true_and]
    cases hPass : (dialMasquePassFrom (env.outcome pass) (cert + 1) 0 candidates).1 with
    | connected =>
      rw [hPass] at hEnds
      exact iff_of_false nofun fun hNone => hEnds.2 hNone.1
    | exhausted =>
      rw [hPass] at hEnds
      exact iff_of_true rfl ⟨hEnds.1, by simpa using hEnds.2⟩
    | identityRejected refusedCount =>
      rw [hPass] at hEnds
      refine iff_of_false nofun fun hNone => ?_
      rcases hEnds with ⟨hReaches, -⟩ | ⟨hShort, -⟩
      · have hLimit := hReaches.le
        rw [hNone.2] at hLimit
        cases hLimit
      · have hPos := hShort.2.1
        rw [hNone.2] at hPos
        cases hPos

lemma begins_renewAndDial (hLog : Justified log) (hEnough : identityRejectedLimit ≤ refusals cert log)
  (hDials : Dials cert log)
  (hOnwards : (renewAndDial env pass candidates cert count log).step = .onwards) :
  Begins (renewAndDial env pass candidates cert count log) := by
  have hFresh : refusals (cert + 1) log = 0 := hDials.refusals_eq_zero (by omega)
  have hFresher : refusals (cert + 2) log = 0 := hDials.refusals_eq_zero (by omega)
  rcases pass_spec (env.outcome pass) (cert + 1) 0 candidates with ⟨hMore, hRefusals⟩
  have hAll := (hLog.renew hEnough).append hMore
  rw [← append_cons] at hAll
  unfold renewAndDial at hOnwards ⊢
  split at hOnwards
  next hIssued =>
    rw [if_pos hIssued]
    cases hPass : (dialMasquePassFrom (env.outcome pass) (cert + 1) 0 candidates).1 with
    | connected | identityRejected =>
      simp only [hPass] at hOnwards
      cases hOnwards
    | exhausted =>
      simp only [hPass] at hRefusals
      refine ⟨hAll, ?_, Nat.two_pos, ?_⟩
      · simp only
        rw [append_cons, refusals_append, refusals_append, hFresh]
        simp only [refusals, Event.refuses, countP_singleton]
        simp only [refusals] at hRefusals
        simp [hRefusals]
      · simp only
        rw [append_cons, refusals_append, refusals_append, hFresher,
          hMore.refusals_eq_zero (by omega)]
        rfl
  next => cases hOnwards

lemma carried_renewAndDial : (renewAndDial env pass candidates cert count log).carried = 0 := by
  unfold renewAndDial
  split <;> rfl

-- The First Pass

section FirstPass

variable (env)

/- What the first pass says of the answers, and what it leaves. -/
lemma firstPass_cases :
  let first := dialMasquePassFrom (env.outcome .h3) 0 0 env.h3Candidates
  Justified first.2 ∧ Dials 0 first.2 ∧
    ((∃ peer, firstPass env = ⟨.quick peer, 0, 0, first.2⟩ ∧
        ¬ ReachesLimit (env.outcome .h3) 0 env.h3Candidates ∧
        ¬ NoneAccepts (env.outcome .h3) env.h3Candidates) ∨
      (∃ count, identityRejectedLimit ≤ count ∧ count = refusals 0 first.2 ∧
        ReachesLimit (env.outcome .h3) 0 env.h3Candidates ∧
        firstPass env = renewAndDial env .h3Renewed env.h3Candidates 0 count first.2) ∨
      ∃ carried < identityRejectedLimit, carried = refusals 0 first.2 ∧
        carried = refused (env.outcome .h3) env.h3Candidates ∧
        NoneAccepts (env.outcome .h3) env.h3Candidates ∧
        firstPass env = ⟨.onwards, 0, carried, first.2⟩) := by
  rcases pass_spec (env.outcome .h3) 0 0 env.h3Candidates with ⟨hDials, hRefusals⟩
  have hEnds := @ends_pass 0 (env.outcome .h3) 0 env.h3Candidates (by decide)
  have hNil : Justified [] := by simp [Justified]
  refine ⟨hNil.append hDials, hDials, ?_⟩
  unfold firstPass
  cases hPass : (dialMasquePassFrom (env.outcome .h3) 0 0 env.h3Candidates).1 with
  | connected peer =>
    rw [hPass] at hEnds
    simp only [hPass]
    exact .inl ⟨peer, rfl, hEnds⟩
  | exhausted =>
    rw [hPass] at hEnds hRefusals
    simp only [Nat.zero_add] at hRefusals
    simp only [hPass]
    exact .inr (.inr ⟨0, Nat.two_pos, hRefusals.symm, by simpa using hEnds.2.symm, hEnds.1, rfl⟩)
  | identityRejected count =>
    rw [hPass] at hEnds hRefusals
    simp only [Nat.zero_add] at hRefusals
    simp only [hPass]
    rcases hEnds with ⟨hReaches, hEnough⟩ | ⟨hShort, hCount⟩
    · rw [if_pos hEnough]
      exact .inr (.inl ⟨count, hEnough, hRefusals, hReaches, rfl⟩)
    · have hLess := hShort.2.2
      rw [← hCount] at hLess
      rw [if_neg (Nat.not_le_of_lt hLess)]
      rw [Nat.zero_add] at hCount
      exact .inr (.inr ⟨count, hLess, hRefusals, hCount, hShort.1, rfl⟩)

lemma onEvidence_firstPass :
  OnEvidence (firstPass env) ↔
    (ReachesLimit (env.outcome .h3) 0 env.h3Candidates → env.issued .h3Renewed = true →
      ¬ EndsShort (env.outcome .h3Renewed) 0 env.h3Candidates) := by
  rcases firstPass_cases env with ⟨hLog, hDials, ⟨peer, hFirst, hReaches, -⟩ |
    ⟨count, hEnough, hCount, hReaches, hFirst⟩ | ⟨carried, hLess, -, hCarried, -, hFirst⟩⟩
  · rw [hFirst, onEvidence_iff]
    exact iff_of_true ⟨hLog, nofun⟩ fun hLimit => absurd hLimit hReaches
  · rw [hFirst, onEvidence_renewAndDial hLog hCount (hDials.refusals_eq_zero (by decide))]
    simp only [hEnough, hReaches, true_and, forall_const]
  · rw [hFirst, onEvidence_iff]
    refine iff_of_true ⟨hLog, nofun⟩ fun hLimit => ?_
    have hMany := hLimit.le
    omega

lemma begins_firstPass (hStep : (firstPass env).step = .onwards) : Begins (firstPass env) := by
  rcases firstPass_cases env with ⟨hLog, hDials, ⟨peer, hFirst, -⟩ |
    ⟨count, hEnough, hCount, -, hFirst⟩ | ⟨carried, hLess, hCarried, -, -, hFirst⟩⟩
  · rw [hFirst] at hStep
    cases hStep
  · rw [hFirst] at hStep ⊢
    exact begins_renewAndDial hLog (hCount ▸ hEnough) hDials hStep
  · rw [hFirst]
    exact ⟨hLog, hCarried, hLess, hDials.refusals_eq_zero Nat.zero_ne_one⟩

lemma carries_iff (carried : Nat) :
  env.Carries carried ↔ env.h2Enabled = false ∧
    (firstPass env).step = .onwards ∧ carried = (firstPass env).carried := by
  refine and_congr_right fun _ => ?_
  rcases firstPass_cases env with ⟨-, -, ⟨peer, hFirst, hReaches, hAccepts⟩ |
    ⟨count, -, -, hReaches, hFirst⟩ | ⟨count, hLess, -, hCount, hNone, hFirst⟩⟩
  · simp [hFirst, hReaches, hAccepts]
  · have hMany := hReaches.le
    rw [hFirst, renewAndDial_onwards_iff, carried_renewAndDial]
    simp only [hReaches, true_and, and_assoc]
    refine or_iff_right ?_
    omega
  · have hReaches : ¬ ReachesLimit (env.outcome .h3) 0 env.h3Candidates := by
      intro hReaches
      have hMany := hReaches.le
      omega
    simp only [hFirst, hReaches, hNone, true_and, false_and, or_false]
    omega

end FirstPass

/-
  A certificate is given up and a new one asked for on enough refusals only, if and only if no
  pass that is run behind the first one ends short of the limit.
-/
theorem gives_up_on_evidence_iff
    (env : Env) :
    OnEvidence (runMasque env) ↔ env.Settled := by
  have hSettled : env.Settled ↔ OnEvidence (firstPass env) ∧
      ∀ carried, env.Carries carried → env.SettledH2 carried := by
    rw [onEvidence_firstPass]
    exact ⟨fun h => ⟨h.renewed, h.h2⟩, fun h => ⟨h.1, h.2⟩⟩
  simp only [hSettled, carries_iff]
  unfold runMasque
  dsimp only
  cases hStep : (firstPass env).step with
  | quick | failed => simp
  | onwards =>
    have hBegins := begins_firstPass env hStep
    have hFair : OnEvidence (firstPass env) :=
      onEvidence_iff.mpr ⟨hBegins.justified, by simp [hStep]⟩
    cases hEnabled : env.h2Enabled with
    | true => simp [hFair]
    | false => simp [hFair, onEvidence_secondPass hBegins]

def gateway (last : UInt8) : SocketAddr := ⟨.v4 ⟨162, 159, 198, last⟩, 443⟩

def refusedOnce : Env where
  h3Candidates := [gateway 1, gateway 2]
  known := [gateway 1]
  outcome := fun pass peer =>
    if pass = .h3 ∧ peer = gateway 1 then .identityRejected else .unreachable
  issued := fun _ => false
  h2Enabled := false

theorem one_refusal_fails :
    (runMasque refusedOnce).step = .failed 1 ∧
    .renew 0 ∈ (runMasque refusedOnce).log ∧
    refusals 0 (runMasque refusedOnce).log = 1 := by decide

end Kourosh.Masque.Refusals
