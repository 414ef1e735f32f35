import Kourosh.Shard.Manager

/-
  Falling back from Smart Split.

  The tunnel is tried with one profile after the other, and without any profile in the end.

  Correctness is proven by:
    * `fallsBack_iff`
-/

-- What Falling Back Means

namespace Kourosh.Shard

def Call.succeeds (call : Call) (position : Nat) : Bool :=
  call.starts (.split position) && call.listens
    (.split position) && (call.cached.isSome || call.carries position)

def Call.ladder (call : Call) : Nat → List Profile → List Profile
| _, [] => []
| position, profile :: rest =>
  if call.succeeds position then [profile]
  else profile :: call.ladder (position + 1) rest

def Call.Works (call : Call) (position : Nat) (profiles : List Profile) : Prop :=
  ∃ k < profiles.length, call.succeeds (position + k) = true

/- From `s` to the end of a call: the profiles were tried in order until one succeeded. -/
structure FallsBack (call : Call) (winner : Node) (position : Nat)
  (profiles : List Profile) (s s' : Manager) : Prop where
  tuned : s'.tuned = s.tuned ++ call.ladder position profiles
  works : call.Works position profiles → s'.returned = some true
  recorded : ¬ call.Works position profiles → s'.remembered = some none
  launched : ¬ call.Works position profiles → call.starts .node = true →
    s'.processes.getLast?.map Process.config = some (.tunnel winner call.port none)
  decided :
    ¬ call.Works position profiles → s'.returned = some (call.starts .node && call.listens .node)
  error : (s'.engines .xray).lastError ≠ .cancelled

structure Call.Splits (call : Call) : Prop where
  enabled : call.splitEnabled = true
  available : call.measuredUnavailable = false
  geoAssets : call.geoAssets = true
  candidates : call.candidates ≠ []

-- Who Wins The Race

def Call.sliceWinner (call : Call) (slice : Nat) (candidates : List Node) : Option Node :=
  if !xrayLaunched candidates (call.conditions slice) &&
    !anytlsLaunched candidates (call.conditions slice) then none
  else (outcome call slice candidates false).2

def Call.raced (call : Call) : List Nat → Option Node
| [] => none
| slice :: rest =>
  let candidates := (call.ranked.drop (slice * raceWidth)).take raceWidth
  if candidates.isEmpty then none
  else
    match call.sliceWinner slice candidates with
    | some winner => some winner
    | none => call.raced rest

-- Running A Program Alone

def play (program : Program) : Manager → Manager := Job.play Act.exec program

lemma play_act (act : Act) (next : Nat → Program) (s : Manager) :
  play (.act act next) s = play (next (act.exec s).1) (act.exec s).2 := rfl

lemma play_perform (act : Act) (next : Program) (s : Manager) :
  play (perform act next) s = play next (act.exec s).2 := rfl

lemma play_fork (role : Role) (job next : Program) (s : Manager) :
  play (.fork role job next) s = play next s := rfl

lemma play_captured (engine : Engine) (next : Option Nat → Program)
  (s : Manager) : play (captured engine next) s = play (next (s.engines engine).process) s := by
  rw [captured, play_act, decode_capture]
  rfl

lemma play_readLatch (engine : Engine) (next : Bool → Program) (s : Manager) :
  play (ask (.readLatch engine) next) s = play (next (s.engines engine).latch) s := by
  rw [ask, play_act]
  simp only [Act.exec]
  cases (s.engines engine).latch with
  | false | true => rfl

structure Passes (s s' : Manager) : Prop where
  latch : (s'.engines .xray).latch = (s.engines .xray).latch
  tuned : s'.tuned = s.tuned
  error : (s.engines .xray).lastError ≠ .cancelled → (s'.engines .xray).lastError ≠ .cancelled

lemma Passes.refl (s : Manager) : Passes s s := ⟨rfl, rfl, id⟩

lemma Passes.trans {a b c : Manager} (hFirst : Passes a b) (hThen : Passes b c) : Passes a c where
  latch := hThen.latch.trans hFirst.latch
  tuned := hThen.tuned.trans hFirst.tuned
  error := hThen.error ∘ hFirst.error

def Act.isMild : Act → Bool
| .latch .xray _ => false
| .fail .xray .cancelled => false
| .adoptError => false
| .tune _ => false
| _ => true

lemma passes_exec {act : Act} (hMild : act.isMild) (s : Manager) : Passes s (act.exec s).2 := by
  cases act with
  | adoptError | tune => cases hMild
  | latch engine =>
    cases engine with
    | xray => cases hMild
    | anytls => exact ⟨rfl, rfl, id⟩
  | fail engine reason =>
    cases engine with
    | anytls => exact ⟨rfl, rfl, id⟩
    | xray =>
      refine ⟨rfl, rfl, ?_⟩
      intro _ hReason
      have hSame : reason = .cancelled := hReason
      rw [hSame] at hMild
      cases hMild
  | forgetIf engine process =>
    cases engine with
    | anytls => exact ⟨rfl, rfl, id⟩
    | xray =>
      unfold Act.exec Manager.modify
      by_cases hSame : (s.engines .xray).process = process
      · simp only [hSame, if_true]
        exact ⟨rfl, rfl, id⟩
      · simp only [hSame, if_false]
        exact ⟨rfl, rfl, id⟩
  | listenOn engine | setRunning engine | launch engine | forget engine =>
    cases engine <;> exact ⟨rfl, rfl, id⟩
  | reap process => cases process <;> exact ⟨rfl, rfl, id⟩
  | setActive node => cases node <;> exact ⟨rfl, rfl, id⟩
  | _ => exact ⟨rfl, rfl, id⟩

def Passing (part : Program → Program) : Prop := ∀ next s,
  ∃ s', play (part next) s = play next s' ∧ Passes s s'

lemma passing_id : Passing id := fun _ s => ⟨s, rfl, .refl s⟩

lemma passing_perform (act : Act) {part : Program → Program} (hMild : act.isMild)
  (hPart : Passing part) : Passing fun next => perform act (part next) := by
  intro next s
  rcases hPart next (act.exec s).2 with ⟨s', hPlay, hPasses⟩
  exact ⟨s', hPlay, (passes_exec hMild s).trans hPasses⟩

lemma passing_captured {engine : Engine}
  {part : Option Nat → Program → Program} (hPart : ∀ process, Passing (part process)) :
  Passing fun next => captured engine fun process => part process next := by
  intro next s
  rcases hPart (s.engines engine).process next s with ⟨s', hPlay, hPasses⟩
  exact ⟨s', by rw [play_captured, hPlay], hPasses⟩

lemma Passing.comp {first rest : Program → Program}
  (hFirst : Passing first) (hRest : Passing rest) : Passing fun next => first (rest next) := by
  intro next s
  rcases hFirst (rest next) s with ⟨mid, hPlay, hPasses⟩
  rcases hRest next mid with ⟨s', hMore, hThen⟩
  exact ⟨s', hPlay.trans hMore, hPasses.trans hThen⟩

lemma passing_killProcess : Passing killProcess :=
  passing_perform _ rfl <| passing_perform _ rfl <| passing_captured fun _ =>
    passing_perform _ rfl <| passing_perform _ rfl passing_id

lemma passing_killProbe : Passing killProbe := passing_captured fun _ =>
  passing_perform _ rfl <| passing_perform _ rfl passing_id

lemma passing_launchProbe (engine : Engine) (basePort : Nat)
  (nodes : List Node) (starts : Bool) : Passing (launchProbe engine basePort nodes starts) := by
  unfold launchProbe launch
  split
  · exact passing_id
  · split
    · exact passing_perform _ rfl passing_id
    · refine passing_perform _ ?_ passing_id
      cases engine <;> rfl

lemma isMild_outcome (call : Call) (slice : Nat) (candidates : List Node) (latched : Bool) :
  (Act.fail .xray (outcome call slice candidates latched).1).isMild := by
  unfold outcome
  split
  · rfl
  · split <;> rfl

variable {s : Manager} {call : Call} {winner : Node} {position : Nat}
variable {profiles : List Profile}

lemma play_raceSlice (call : Call) (slice : Nat) (candidates : List Node)
  (next : Option Node → Program) (hLatch : (s.engines .xray).latch = false) :
  ∃ s', play (raceSlice call slice candidates next) s =
  play (next (call.sliceWinner slice candidates)) s' ∧ Passes s s' := by
  have hProbes := (passing_launchProbe .xray probeBasePort
    (xrayCandidates candidates) (call.conditions slice).xrayStarts).comp (passing_launchProbe
    .anytls anytlsProbeBasePort (anytlsCandidates candidates) (call.conditions slice).anytlsStarts)
  rcases hProbes _ s with ⟨probed, hPlay, hPasses⟩
  unfold raceSlice Call.sliceWinner
  simp only at hPlay ⊢
  rw [hPlay]
  clear hPlay
  split
  · -- no process could be launched
    rcases passing_perform
      (.fail .xray .noProbe) rfl passing_id (next none) probed with ⟨s', hNext, hThen⟩
    exact ⟨s', hNext, hPasses.trans hThen⟩
  · have hCalm := hPasses.latch.trans hLatch
    rw [play_readLatch, hCalm]
    have hKill := passing_killProcess.comp passing_killProbe
    cases hOutcome : outcome call slice candidates false with
    | mk _ winner =>
      cases winner with
      | some winner =>
        rcases hKill (next (some winner)) probed with ⟨s', hNext, hThen⟩
        exact ⟨s', hNext, hPasses.trans hThen⟩
      | none =>
        have hMild := isMild_outcome call slice candidates false
        rw [hOutcome] at hMild
        rcases passing_perform _ hMild hKill (next none) probed with ⟨s', hNext, hThen⟩
        exact ⟨s', hNext, hPasses.trans hThen⟩

lemma play_raceSlices (next : Node → Program) {slices : List Nat}
  (hRaced : call.raced slices = some winner) (hLatch : (s.engines .xray).latch = false) :
  ∃ s', play (raceSlices call next slices) s = play (next winner) s' ∧ Passes s s' := by
  induction slices generalizing s with
  | nil => cases hRaced
  | cons slice rest ih =>
    unfold raceSlices
    unfold Call.raced at hRaced
    rw [play_readLatch, hLatch, if_neg Bool.false_ne_true]
    simp only at hRaced ⊢
    split at hRaced
    · cases hRaced
    next hSome =>
      rw [if_neg hSome]
      rcases play_raceSlice call slice _ _ hLatch with ⟨raced, hPlay, hPasses⟩
      rw [hPlay]
      cases
        hFound : call.sliceWinner slice ((call.ranked.drop (slice * raceWidth)).take raceWidth) with
      | some =>
        rw [hFound] at hRaced
        cases hRaced
        exact ⟨raced, rfl, hPasses⟩
      | none =>
        rw [hFound] at hRaced
        rcases ih hRaced (hPasses.latch.trans hLatch) with ⟨s', hMore, hThen⟩
        exact ⟨s', hMore, hPasses.trans hThen⟩

structure Ready (s : Manager) : Prop where
  latch : (s.engines .xray).latch = false
  error : (s.engines .xray).lastError ≠ .cancelled

/- `start` comes to Smart Split with the winner of the race. -/
lemma play_start (hSplits : call.Splits)
  (hRaced : call.raced (List.range maxRaceSlices) = some winner) (hXray : winner.isAnytls = false)
  (s : Manager) : ∃ s', play (start call) s = play (tryProfiles call winner
  (nodeOnly call winner) 0 call.candidates) s' ∧ Ready s' ∧ s'.tuned = s.tuned := by
  let begun : Manager := ((Act.listenOn .xray call.port).exec
    ((Act.fail .xray .none).exec ((Act.latch .xray false).exec s).2).2).2
  have hPool : call.ranked.isEmpty = false := by
    rw [Bool.eq_false_iff]
    intro hEmpty
    rw [List.isEmpty_iff] at hEmpty
    simp [maxRaceSlices, List.range_succ, Call.raced, hEmpty] at hRaced
  have hBegun : play (start call) s =
    play (raceSlices call (tunnel call) (List.range maxRaceSlices)) begun := by
    unfold start
    rw [hPool]
    rfl
  have hLatch : (begun.engines .xray).latch = false := rfl
  have hError : (begun.engines .xray).lastError ≠ .cancelled := by simp [begun, Act.exec]
  rcases play_raceSlices (tunnel call) hRaced hLatch with ⟨raced, hPlay, hPasses⟩
  have hCalm := hPasses.latch.trans hLatch
  refine ⟨((Act.setLive (some .xray)).exec raced).2, ?_,
    ⟨hCalm, hPasses.error hError⟩, hPasses.tuned⟩
  rw [hBegun, hPlay, tunnel, play_readLatch, hCalm, hXray,
    if_neg Bool.false_ne_true, if_neg Bool.false_ne_true, xrayTunnel, startSmartSplit, if_neg]
  · rfl
  · simp [hSplits.enabled, hSplits.available, hSplits.geoAssets, hSplits.candidates]

-- Trying The Profiles

/- The state behind a call of `stop`. -/
def Manager.stopped (s : Manager) : Manager := ((Act.setLive none).exec
  ((Act.latch .anytls true).exec ((Act.latch .xray true).exec s).2).2).2

lemma play_stop (next : Program) (s : Manager) : play (stop next) s = play next s.stopped := by
  rw [stop, play_perform, stopSidecar,
    play_perform, play_captured, play_fork, play_perform, play_act, play_captured, play_fork]
  rfl

lemma play_awaitListener {port : Nat} (listens : Bool) (next : Bool → Program)
  (hAccepts : s.accepts port) :
  play (awaitListener port listens next) s = play (next listens) s := by
  have hRead : ((Act.accepts port).exec s).1 = 1 := by simp [Act.exec, hAccepts]
  rw [awaitListener, ask, play_act, hRead]
  cases listens <;> rfl

lemma play_attempt (winner : Node) (port : Nat) (split : Option Profile)
  (starts listens : Bool) (next : Bool → Program) (other : Program) (s : Manager) : play
    (launch .xray starts (.tunnel winner port split) fun started =>
      if started then awaitListener port listens next else other) s =
    if starts then play (next listens) (s.launch .xray (.tunnel winner port split))
    else play other ((Act.fail .xray .notStarted).exec s).2 := by
  cases starts with
  | false => rfl
  | true => exact play_awaitListener listens next (s.accepts_launch .xray rfl)

lemma play_nodeOnly_of_latched (call : Call) (winner : Node) (hLatch : (s.engines .xray).latch) :
  ((play (nodeOnly call winner) s).engines .xray).lastError = .cancelled := by
  rw [nodeOnly, play_readLatch, hLatch, if_pos rfl]
  rfl

lemma play_tryProfiles_of_latched (call : Call) (winner : Node) (position : Nat)
  (profiles : List Profile) (hLatch : (s.engines .xray).latch) : ((play (tryProfiles call
  winner (nodeOnly call winner) position profiles) s).engines .xray).lastError = .cancelled := by
  cases profiles with
  | nil => exact play_nodeOnly_of_latched call winner hLatch
  | cons =>
    rw [tryProfiles, play_readLatch, hLatch, if_pos rfl]
    exact play_nodeOnly_of_latched call winner hLatch

/- The end of `start` through the tunnel without a profile. -/
structure Decides (call : Call) (winner : Node) (s s' : Manager) : Prop where
  tuned : s'.tuned = s.tuned
  remembered : s'.remembered = s.remembered
  launched : call.starts .node = true →
    s'.processes.getLast?.map Process.config = some (.tunnel winner call.port none)
  returned : s'.returned = some (call.starts .node && call.listens .node)
  error : (s'.engines .xray).lastError ≠ .cancelled

lemma decides_nodeOnly (call : Call) (winner : Node) (hReady : Ready s) :
  Decides call winner s (play (nodeOnly call winner) s) := by
  have hLast :
    ((s.launch .xray (.tunnel winner call.port none)).processes.getLast?.map Process.config) =
    some (.tunnel winner call.port none) := by simp [Manager.launch]
  rw [nodeOnly, play_readLatch, hReady.latch, if_neg Bool.false_ne_true, play_attempt]
  cases hStarts : call.starts .node with
  | false =>
    rw [if_neg Bool.false_ne_true]
    refine ⟨rfl, rfl, ?_, by rw [hStarts]; rfl, Reason.noConfusion⟩
    intro hStarted
    rw [hStarts] at hStarted
    cases hStarted
  | true =>
    rw [if_pos rfl]
    cases hListens : call.listens .node with
    | false =>
      rw [if_neg Bool.false_ne_true, play_perform, play_stop]
      exact ⟨rfl, rfl, fun _ => hLast, by rw [hStarts, hListens]; rfl, Reason.noConfusion⟩
    | true =>
      rw [if_pos rfl]
      exact ⟨rfl, rfl, fun _ => hLast, by rw [hStarts, hListens]; rfl, hReady.error⟩

-- When It Falls Back

def Call.Unstopped (call : Call) (position : Nat) (profiles : List Profile) : Prop :=
  ∀ k < profiles.length, (∀ j < k, call.succeeds (position + j) = false) →
    call.starts (.split (position + k)) = true → call.succeeds (position + k) = true

section

variable (call : Call) (position : Nat) (profile : Profile) (rest : List Profile)

lemma unstopped_cons_iff : call.Unstopped position (profile :: rest) ↔
  (call.starts (.split position) → call.succeeds position) ∧
  (call.succeeds position = false → call.Unstopped (position + 1) rest) := by
  constructor
  · intro hAll
    refine ⟨hAll 0 (by simp) (by simp), ?_⟩
    intro hFails k hShort hBefore hStarts
    have hNext : position + 1 + k = position + (k + 1) := by omega
    rw [hNext] at hStarts ⊢
    apply hAll (k + 1) (by simpa using hShort) _ hStarts
    intro j hLess
    cases j with
    | zero => exact hFails
    | succ j =>
      have hSame := hBefore j (by omega)
      rwa [show position + 1 + j = position + (j + 1) by omega] at hSame
  · rintro ⟨hFirst, hRest⟩ k hShort hBefore hStarts
    cases k with
    | zero => exact hFirst hStarts
    | succ k =>
      have hNext : position + (k + 1) = position + 1 + k := by omega
      rw [hNext] at hStarts ⊢
      apply hRest (hBefore 0 (by omega)) k (by simpa using hShort) _ hStarts
      intro j hLess
      have hSame := hBefore (j + 1) (by omega)
      rwa [show position + (j + 1) = position + 1 + j by omega] at hSame

lemma works_cons_iff : call.Works position (profile :: rest) ↔
  call.succeeds position ∨ call.Works (position + 1) rest := by
  constructor
  · rintro ⟨k, hShort, hWorks⟩
    cases k with
    | zero => exact .inl hWorks
    | succ k =>
      refine .inr ⟨k, by simpa using hShort, ?_⟩
      rwa [show position + 1 + k = position + (k + 1) by omega]
  · rintro (hFirst | ⟨k, hShort, hWorks⟩)
    · exact ⟨0, by simp, hFirst⟩
    · refine ⟨k + 1, by simpa using hShort, ?_⟩
      rwa [show position + (k + 1) = position + 1 + k by omega]

end

lemma fallsBack_of_succeeds (hSucceeds : call.succeeds position) (winner : Node) (profile : Profile)
  (rest : List Profile) {s' : Manager} (hTuned : s'.tuned = s.tuned ++ [profile])
  (hError : (s'.engines .xray).lastError ≠ .cancelled) :
  FallsBack call winner position (profile :: rest) s (play (commit winner) s') := by
  have hWorks : call.Works position (profile :: rest) :=
    (works_cons_iff call position profile rest).mpr (.inl hSucceeds)
  exact
    { tuned := by
        rw [Call.ladder, hSucceeds, if_pos rfl]
        exact hTuned
      works := fun _ => rfl
      recorded := fun hNot => absurd hWorks hNot
      launched := fun hNot => absurd hWorks hNot
      decided := fun hNot => absurd hWorks hNot
      error := hError }

lemma FallsBack.cons {profile : Profile} {rest : List Profile} {s mid s' : Manager}
  (hFails : call.succeeds position = false) (hTuned : mid.tuned = s.tuned ++ [profile])
  (hRest : FallsBack call winner (position + 1) rest mid s') :
  FallsBack call winner position (profile :: rest) s s' := by
  have hWorks : call.Works position (profile :: rest) ↔ call.Works (position + 1) rest := by
    simp [works_cons_iff, hFails]
  exact
    { tuned := by
        rw [Call.ladder, hFails, if_neg Bool.false_ne_true, hRest.tuned, hTuned]
        simp
      works := fun h => hRest.works (hWorks.mp h)
      recorded := fun h => hRest.recorded (h ∘ hWorks.mpr)
      launched := fun h => hRest.launched (h ∘ hWorks.mpr)
      decided := fun h => hRest.decided (h ∘ hWorks.mpr)
      error := hRest.error }

def Manager.tried (s : Manager) (winner : Node) (port : Nat) (profile : Profile) : Manager :=
  Manager.launch { s with tuned := s.tuned ++ [profile] } .xray (.tunnel winner port (some profile))

lemma play_tryProfiles_cons (call : Call) (winner : Node) (next : Program) (position : Nat)
  (profile : Profile) (rest : List Profile) (hReady : Ready s) : play
    (tryProfiles call winner next position (profile :: rest)) s =
    if call.starts (.split position) then
      if call.succeeds position then
        play (commit winner) (if call.cached.isSome then s.tried winner call.port profile
          else { s.tried winner call.port profile with remembered := some (some profile) })
      else
        play (tryProfiles call winner next (position + 1) rest)
          (s.tried winner call.port profile).stopped
    else
      play (tryProfiles call winner next (position + 1) rest) ((Act.fail .xray .notStarted).exec
        { s with tuned := s.tuned ++ [profile] }).2 := by
  rw [tryProfiles, play_readLatch, hReady.latch,
    if_neg Bool.false_ne_true, play_perform, play_attempt]
  cases hStarts : call.starts (.split position) with
  | false => rfl
  | true =>
    rw [if_pos rfl, if_pos rfl]
    cases hListens : call.listens (.split position) with
    | false =>
      have hFails : call.succeeds position = false := by simp [Call.succeeds, hListens]
      rw [hFails]
      exact play_stop _ _
    | true =>
      cases hCached : call.cached.isSome with
      | true =>
        have hSucceeds : call.succeeds position := by
          simp [Call.succeeds, hStarts, hListens, hCached]
        rw [hSucceeds]
        rfl
      | false =>
        have hProbed : call.succeeds position = call.carries position := by
          simp [Call.succeeds, hStarts, hListens, hCached]
        rw [hProbed]
        cases hCarries : call.carries position with
        | true => rfl
        | false => exact play_stop _ _

lemma play_tryProfiles_of_unstopped (hUnstopped : call.Unstopped position profiles)
  (winner : Node) (hReady : Ready s) : FallsBack call winner position profiles s
  (play (tryProfiles call winner (nodeOnly call winner) position profiles) s) := by
  induction profiles generalizing position s with
  | nil =>
    have hNone : ¬ call.Works position [] := by
      rintro ⟨k, hShort, _⟩
      cases hShort
    have hDecides :=
      decides_nodeOnly call winner (s := { s with remembered := some none })
        ⟨hReady.latch, hReady.error⟩
    exact
      { tuned := by
          rw [Call.ladder, List.append_nil]
          exact hDecides.tuned
        works := fun hWorks => absurd hWorks hNone
        recorded := fun _ => hDecides.remembered
        launched := fun _ => hDecides.launched
        decided := fun _ => hDecides.returned
        error := hDecides.error }
  | cons profile rest ih =>
    rcases (unstopped_cons_iff call position profile rest).mp hUnstopped with ⟨hFirst, hRest⟩
    rw [play_tryProfiles_cons _ _ _ _ _ _ hReady]
    cases hSucceeds : call.succeeds position with
    | true =>
      have hStarts : call.starts (.split position) := by
        simp only [Call.succeeds, Bool.and_eq_true] at hSucceeds
        exact hSucceeds.1.1
      rw [hStarts, if_pos rfl, if_pos rfl]
      apply fallsBack_of_succeeds hSucceeds
      · split <;> rfl
      · split <;> exact hReady.error
    | false =>
      have hStarts : call.starts (.split position) = false := by
        rw [Bool.eq_false_iff]
        intro hStarted
        rw [hFirst hStarted] at hSucceeds
        cases hSucceeds
      rw [hStarts, if_neg Bool.false_ne_true]
      refine FallsBack.cons hSucceeds ?_ (ih (hRest hSucceeds) ?_)
      · rfl
      · exact ⟨hReady.latch, Reason.noConfusion⟩

lemma play_tryProfiles_of_stopped (hStopped : ¬ call.Unstopped position profiles) (winner : Node)
  (hReady : Ready s) : ((play (tryProfiles call winner (nodeOnly call winner) position profiles)
  s).engines .xray).lastError = .cancelled := by
  induction profiles generalizing position s with
  | nil =>
    exfalso
    apply hStopped
    exact nofun
  | cons _ _ ih =>
    rw [unstopped_cons_iff] at hStopped
    rw [play_tryProfiles_cons _ _ _ _ _ _ hReady]
    cases hSucceeds : call.succeeds position with
    | true => simp [hSucceeds] at hStopped
    | false =>
      cases hStarts : call.starts (.split position) with
      | true =>
        rw [if_pos rfl, if_neg Bool.false_ne_true]
        exact play_tryProfiles_of_latched _ _ _ _ rfl
      | false =>
        rw [if_neg Bool.false_ne_true]
        apply ih
        · simpa [hSucceeds, hStarts] using hStopped
        · exact ⟨hReady.latch, Reason.noConfusion⟩

/-
  Smart Split falls back exactly if it never has to take a tunnel down: the `stop` that does so
  cancels the connect.
-/
theorem fallsBack_iff
    (call : Call)
    (winner : Node)
    (hSplits : call.Splits)
    (hRaced : call.raced (List.range maxRaceSlices) = some winner)
    (hXray : winner.isAnytls = false)
    (s : Manager) :
    FallsBack call winner 0 call.candidates s (play (start call) s) ↔
      call.Unstopped 0 call.candidates := by
  rcases play_start hSplits hRaced hXray s with ⟨raced, hPlay, hReady, hTuned⟩
  rw [hPlay]
  constructor
  · intro hFalls
    by_contra hStopped
    exact hFalls.error (play_tryProfiles_of_stopped hStopped winner hReady)
  · intro hUnstopped
    have hFalls := play_tryProfiles_of_unstopped hUnstopped winner hReady
    exact { hFalls with tuned := by rw [hFalls.tuned, hTuned] }

/- The first profile is not launched, and the second works. -/
theorem fallsBack_second_profile :
  FallsBack { sampleCall with starts := (· ≠ .split 0) } sampleWinner 0 sampleCall.profiles fresh
  (play (start { sampleCall with starts := (· ≠ .split 0) }) fresh) := by
  apply (fallsBack_iff { sampleCall with starts := (· ≠ .split 0) } sampleWinner
    ⟨rfl, rfl, rfl, by decide⟩ (by decide +kernel) rfl
    fresh).mpr
  intro k hShort _ hStarts
  simp [Call.succeeds, sampleCall] at hStarts ⊢
  exact hStarts

/- The listener of the first profile does not come up. -/
theorem listener_down_cancels : ¬ ∀ (call : Call) (winner : Node) (s : Manager), call.Splits →
  call.raced (List.range maxRaceSlices) = some winner →
  winner.isAnytls = false → FallsBack call winner 0 call.candidates s (play (start call) s) := by
  intro hAll
  have hFalls := hAll { sampleCall with listens := (· ≠ .split 0) }
    sampleWinner fresh ⟨rfl, rfl, rfl, by decide⟩
    (by decide +kernel) rfl
  exact hFalls.error (by decide +kernel)

end Kourosh.Shard
