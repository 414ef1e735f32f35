import Kourosh.Vpn.ExitCountry

/-
  The chase of a preferred exit country.

  Correctness is proven by:
    * `chase_kept_of_orderly`
-/

-- Spending The Budget

namespace Kourosh.ExitCountry

open RemotePolicy (Text ExitEndpoint)
open Run (Reaches Always)

structure Same (s s' : Service) : Prop where
  forced : s'.forced = s.forced
  rotations : s'.rotations = s.rotations
  left : s'.exitRotationsLeft = s.exitRotationsLeft

namespace Same

lemma refl (s : Service) : Same s s := ⟨rfl, rfl, rfl⟩

lemma trans {s₁ s₂ s₃ : Service} (hFirst : Same s₁ s₂) (hThen : Same s₂ s₃) : Same s₁ s₃ :=
  ⟨hThen.forced.trans hFirst.forced, hThen.rotations.trans hFirst.rotations,
    hThen.left.trans hFirst.left⟩

lemma before {s s₁ s₂ : Service}
  (hThen : Same s₁ s₂) (hForced : s₁.forced = s.forced) (hRotations : s₁.rotations = s.rotations)
  (hLeft : s₁.exitRotationsLeft = s.exitRotationsLeft) : Same s s₂ :=
  trans ⟨hForced, hRotations, hLeft⟩ hThen

/- Both branches leave the counters. -/
lemma ite {s s₁ s₂ : Service} {c : Prop} [Decidable c] (hThen : Same s s₁) (hElse : Same s s₂) :
  Same s (if c then s₁ else s₂) := by
  split
  · exact hThen
  · exact hElse

end Same

structure Spends (s s' : Service) : Prop where
  forced : s'.forced = s.forced
  total : s'.rotations + s'.exitRotationsLeft ≤ s.rotations + s.exitRotationsLeft
  left : s'.exitRotationsLeft ≤ s.exitRotationsLeft

variable {s s' s₁ s₂ : Service} {reaction : Reaction} {settings : Settings}
variable {event : Event} {config : Config}

lemma Same.spends (hSame : Same s s') : Spends s s' :=
  ⟨hSame.forced, by rw [hSame.rotations, hSame.left], hSame.left.le⟩

lemma Spends.before (hThen : Spends s₁ s₂) (hSame : Same s s₁) : Spends s s₂ :=
  ⟨hThen.forced.trans hSame.forced, hThen.total.trans hSame.spends.total,
    hThen.left.trans hSame.left.le⟩

lemma same_saveExitPin (endpoint : Text) (s : Service) : Same s (saveExitPin endpoint s) :=
  .ite (.refl s) ⟨rfl, rfl, rfl⟩

lemma same_dropExitPin (s : Service) : Same s (dropExitPin s) :=
  .ite ⟨rfl, rfl, rfl⟩ (.refl s)

lemma same_stopTunnel (s : Service) : Same s (stopTunnel s) := by
  unfold stopTunnel
  split
  · exact ⟨rfl, rfl, rfl⟩
  · split
    all_goals exact ⟨rfl, rfl, rfl⟩

lemma same_scheduleAutoReconnect (s : Service) : Same s (scheduleAutoReconnect s) := by
  unfold scheduleAutoReconnect
  split
  · exact .refl s
  · split
    · exact .refl s
    · exact ⟨rfl, rfl, rfl⟩

lemma same_failAndStop (settings : Settings) (s : Service) : Same s (failAndStop settings s) := by
  have hStopped : Same s (stopTunnel { s with connected := false }) :=
    (same_stopTunnel _).before rfl rfl rfl
  unfold failAndStop
  dsimp only
  split
  · exact hStopped.trans (⟨rfl, rfl, rfl⟩)
  · split
    · exact hStopped.trans (same_scheduleAutoReconnect _)
    · exact hStopped

lemma same_requestQuickReconnect (s : Service) : Same s (requestQuickReconnect s) := by
  unfold requestQuickReconnect
  split
  · exact .refl s
  · have hStopped : Same s (stopTunnel { s with reconnectRequested := true }) :=
      (same_stopTunnel _).before rfl rfl rfl
    exact hStopped.trans (⟨rfl, rfl, rfl⟩)

lemma same_onTunnelLost (settings : Settings) (s : Service) : Same s (onTunnelLost settings s) := by
  unfold onTunnelLost
  split
  · exact .refl s
  · split
    · refine .trans ?_ (same_scheduleAutoReconnect _)
      exact (same_stopTunnel _).before rfl rfl rfl
    · exact (same_stopTunnel _).before rfl rfl rfl

lemma spends_rotate (s : Service) : Spends s (rotate s) := by
  unfold rotate
  split
  · exact (Same.refl s).spends
  next left hLeft =>
    have hSpent : Spends s { s with exitRotationsLeft := left, rotations := s.rotations + 1 } := by
      refine ⟨rfl, ?_, ?_⟩
      · rw [hLeft]
        dsimp only
        omega
      · rw [hLeft]
        exact Nat.le_succ left
    have hDropped := (same_dropExitPin
      { s with exitRotationsLeft := left, rotations := s.rotations + 1 }).spends
    exact ⟨hDropped.forced.trans hSpent.forced,
      hDropped.total.trans hSpent.total, hDropped.left.trans hSpent.left⟩

lemma spends_answer (generation : Nat) (wanted : Text) (actual : Option Text)
  (endpoint : Text) (s : Service) : Spends s (answer generation wanted actual endpoint s) := by
  unfold answer
  split
  · split
    · exact (Same.refl s).spends
    · split
      · exact (same_saveExitPin _ s).spends
      · exact spends_rotate s
  · exact (Same.refl s).spends

lemma same_coreEnded (settings : Settings) (ending : Ending)
  (superseded : Bool) (s : Service) : Same s (coreEnded settings ending superseded s) := by
  unfold coreEnded
  extract_lets unexpected dropped ended
  have hDropped : Same s dropped := by
    cases ending with
    | clean => exact .refl s
    | failed => exact .ite (.refl s) (same_dropExitPin s)
    | rejected => exact same_dropExitPin s
  have hEnded : Same s ended := hDropped.trans (⟨rfl, rfl, rfl⟩)
  exact .ite hEnded (.ite (hEnded.trans ⟨rfl, rfl, rfl⟩)
    (.ite hEnded (.ite (hEnded.trans (same_scheduleAutoReconnect _)) hEnded)))

lemma same_disconnect (s : Service) : Same s (disconnect s) :=
  (same_stopTunnel _).before rfl rfl rfl

lemma same_evaluateExitCountry (s : Service) : Same s (evaluateExitCountry s) := by
  unfold evaluateExitCountry
  split
  · exact .refl s
  · split
    · exact .refl s
    · exact ⟨rfl, rfl, rfl⟩

lemma same_rotationDue (s : Service) : Same s (rotationDue s) :=
  .ite ⟨rfl, rfl, rfl⟩ (same_requestQuickReconnect s)

lemma same_restartDue
  {running : Bool} (hReact : restartDue running s = some reaction) : Same s reaction.service := by
  unfold restartDue at hReact
  split at hReact
  · cases hReact
  · dsimp only at hReact
    split at hReact
    all_goals
      cases hReact
      exact ⟨rfl, rfl, rfl⟩

lemma same_reconnectDue (hReact : reconnectDue s = some reaction) : Same s reaction.service := by
  unfold reconnectDue at hReact
  split at hReact
  · cases hReact
  · dsimp only at hReact
    split at hReact
    · cases hReact
      exact ⟨rfl, rfl, rfl⟩
    · split at hReact
      all_goals
        cases hReact
        exact ⟨rfl, rfl, rfl⟩

lemma spends_react (hReact : react settings s event = some reaction) :
  Spends (counted s event) reaction.service := by
  cases event with
  | answer =>
    unfold react at hReact
    dsimp only at hReact
    split at hReact
    · cases hReact
    · cases hReact
      exact (spends_answer _ _ _ _ _).before ⟨rfl, rfl, rfl⟩
  | destroyed =>
    cases hReact
    exact ⟨rfl, Nat.le_add_right _ _, Nat.zero_le _⟩
  | restartDue => exact (same_restartDue hReact).spends
  | reconnectDue => exact (same_reconnectDue hReact).spends
  | rotationDue =>
    unfold react at hReact
    dsimp only at hReact
    split at hReact
    · cases hReact
    · cases hReact
      apply Same.spends
      exact (same_rotationDue _).before rfl rfl rfl
  | connect =>
    cases hReact
    exact Same.spends ⟨rfl, rfl, rfl⟩
  | disconnect =>
    cases hReact
    apply Same.spends
    exact (same_disconnect _).before rfl rfl rfl
  | revoke =>
    cases hReact
    exact (same_disconnect s).spends
  | reconnect =>
    cases hReact
    exact (Same.ite (same_requestQuickReconnect s) (.refl s)).spends
  | ready =>
    cases hReact
    apply Same.spends
    exact .ite ⟨rfl, rfl, rfl⟩ (.refl s)
  | exitIp =>
    cases hReact
    exact (same_evaluateExitCountry s).spends
  | available =>
    cases hReact
    apply Same.spends
    exact .ite ⟨rfl, rfl, rfl⟩ (.refl s)
  | lost =>
    cases hReact
    exact (Same.ite (.refl s) (same_onTunnelLost settings s)).spends
  | failed =>
    cases hReact
    exact (same_failAndStop settings s).spends
  | coreEnded ending superseded =>
    cases hReact
    exact (same_coreEnded settings ending superseded s).spends

-- Starting A Session

def latched (settings : Settings) (config : Config) (s : Service) : Service :=
  latchCountry settings { s with currentProtocol := config.protocol }

lemma gool_of_latched (hCountry : (latched settings config s).sessionExitCountry.isSome) :
  config.protocol = gool := by
  by_contra hOther
  simp [latched, latchCountry, hOther] at hCountry

def ChoosesSeed (settings : Settings) (config : Config) (s : Service) : Prop :=
  mayForce config (latched settings config s) = true ∧ exitPin (latched settings config s) = none

instance (settings : Settings) (config : Config) (s : Service) :
  Decidable (ChoosesSeed settings config s) := by
  unfold ChoosesSeed
  infer_instance

structure Chosen (settings : Settings) (config : Config) (s s' : Service) : Prop where
  forced : s'.forced = s.forced ∨ ∃ seed, ChoosesSeed settings config s ∧
    Walk.next settings.seeds s.exitSeedHistory = some seed ∧ s'.forced = s.forced ++ [seed]
  rotations : s'.rotations = s.rotations
  left : s'.exitRotationsLeft = s.exitRotationsLeft
  pending : s'.exitRotationPending = s.exitRotationPending
  gool : s'.sessionExitCountry.isSome = true → s'.currentProtocol = gool

section

variable (settings : Settings) (config : Config) (s : Service)

lemma chosen_latched : Chosen settings config s (latched settings config s) where
  forced := .inl rfl
  rotations := rfl
  left := rfl
  pending := rfl
  gool := gool_of_latched

lemma chosen_choosePeer :
  Chosen settings config s (choosePeer settings config (latched settings config s)).2 := by
  have hLatched := chosen_latched settings config s
  unfold choosePeer
  split
  next hMay =>
    have hCountry : (latched settings config s).sessionExitCountry.isSome := by
      have hAll := hMay
      simp only [mayForce, Bool.and_eq_true] at hAll
      exact hAll.1.1
    split
    · exact hLatched
    next hPin =>
      have hSeeds : nextSeed settings (latched settings config s) =
        Walk.next settings.seeds s.exitSeedHistory := by
        show Walk.next
          ((settings.seedsFor config.protocol).map ExitEndpoint.endpoint) s.exitSeedHistory = _
        rw [gool_of_latched hCountry]
        rfl
      split
      · exact hLatched
      next seed hSeed =>
        exact { hLatched with forced := .inr ⟨seed, ⟨hMay, hPin⟩, hSeeds ▸ hSeed, rfl⟩ }
  · exact hLatched

end

lemma chosen_storeConfig (peer : Option Text) (hChosen : Chosen settings config s s') :
  Chosen settings config s (storeConfig config peer s') := by
  rcases hChosen with ⟨hForced, hRotations, hLeft, hPending, hGool⟩
  cases peer with
  | none | some => exact ⟨hForced, hRotations, hLeft, hPending, hGool⟩

lemma same_openTransport (settings : Settings) (s : Service) :
  Same s (openTransport settings s) := by
  unfold openTransport
  dsimp only
  split
  · exact (same_failAndStop settings _).before rfl rfl rfl
  · split
    · exact ⟨rfl, rfl, rfl⟩
    · split
      · exact ⟨rfl, rfl, rfl⟩
      · split
        all_goals exact ⟨rfl, rfl, rfl⟩

structure Starts (settings : Settings) (config : Config) (s s' : Service) : Prop where
  forced : s'.forced = s.forced ∨ ∃ seed, ChoosesSeed settings config s ∧
    Walk.next settings.seeds s.exitSeedHistory = some seed ∧ s'.forced = s.forced ++ [seed]
  rotations : s'.rotations = s.rotations
  left : s'.exitRotationsLeft ≤ if s.exitRotationPending then s.exitRotationsLeft
    else settings.budget

lemma Starts.same
  (hStarts : Starts settings config s s₁) (hSame : Same s₁ s₂) : Starts settings config s s₂ where
  forced := by
    rw [hSame.forced]
    exact hStarts.forced
  rotations := hSame.rotations.trans hStarts.rotations
  left := hSame.left.le.trans hStarts.left

lemma starts_settleBudget (hChosen : Chosen settings config s s') :
  Starts settings config s (settleBudget settings s') := by
  rcases hChosen with ⟨hForced, hRotations, hLeft, hPending, hGool⟩
  unfold settleBudget
  split
  next hRotates =>
    refine ⟨hForced, hRotations, ?_⟩
    rw [← hPending, if_pos hRotates, ← hLeft]
    dsimp only
    split
    · exact le_rfl
    · exact Nat.zero_le _
  next hAnew =>
    refine ⟨hForced, hRotations, ?_⟩
    rw [← hPending, if_neg hAnew]
    dsimp only
    split
    next hCountry =>
      rw [hGool hCountry]
      simp [Settings.budget, Settings.seeds]
    · exact Nat.zero_le _

lemma starts_startSession (settings : Settings) (config : Config)
  (s : Service) : Starts settings config s (startSession settings config s) := by
  have hChosen := chosen_choosePeer settings config s
  have hStored :=
    chosen_storeConfig (choosePeer settings config (latched settings config s)).1 hChosen
  exact (starts_settleBudget hStored).same (same_openTransport settings _)

-- What A Chase Keeps

structure Kept (settings : Settings) (s : Service) : Prop where
  order : Walk.InOrder settings.seeds s.forced
  within : s.rotations + s.exitRotationsLeft ≤ settings.budget

lemma Kept.spends (hKept : Kept settings s) (hSpends : Spends s s') : Kept settings s' :=
  ⟨hSpends.forced ▸ hKept.order, hSpends.total.trans hKept.within⟩

/-
  A start that is in step with the chase: where it takes a seed, the history mirrors what was
  forced, and it is the restart of a rotation or no rotation was made before it.
-/
def InStep (settings : Settings) (config : Option Config) (s : Service) : Prop :=
  (∀ c ∈ config, ChoosesSeed settings c s →
    Walk.Mirrors settings.seeds s.forced s.exitSeedHistory) ∧
  (s.exitRotationPending = true ∨ s.rotations = 0)

instance (settings : Settings) (config : Option Config) (s : Service) :
  Decidable (InStep settings config s) := by
  unfold InStep
  infer_instance

lemma kept_startSession (hKept : Kept settings s) (hInStep : InStep settings (some config) s) :
  Kept settings (startSession settings config s) := by
  have hStarts := starts_startSession settings config s
  constructor
  · rcases hStarts.forced with hSame | ⟨seed, hChooses, hNext, hTaken⟩
    · rw [hSame]
      exact hKept.order
    · rw [hTaken]
      exact hKept.order.next (hInStep.1 config rfl hChooses) hNext
  · have hWithin := hKept.within
    have hLeft := hStarts.left
    rw [hStarts.rotations]
    rcases hInStep.2 with hPending | _
    · rw [if_pos hPending] at hLeft
      omega
    · split at hLeft
      all_goals omega

lemma kept_startTunnel {config : Option Config} (hKept : Kept settings s)
  (hInStep : s.connected = false → InStep settings config s) :
  Kept settings (startTunnel settings config s) := by
  unfold startTunnel
  split
  · exact hKept
  next hDown =>
    have hHere := hInStep (Bool.eq_false_iff.mpr hDown)
    dsimp only
    split
    · apply hKept.spends (Same.spends _)
      exact (same_failAndStop settings _).before rfl rfl rfl
    · split
      · apply hKept.spends (Same.spends _)
        exact (same_failAndStop settings _).before rfl rfl rfl
      · apply kept_startSession
        · exact hKept.spends (Same.spends ⟨rfl, rfl, rfl⟩)
        · exact hHere

lemma left_startTunnel (config : Option Config) (hLeft : s.exitRotationsLeft ≤ settings.budget) :
  (startTunnel settings config s).exitRotationsLeft ≤ settings.budget := by
  unfold startTunnel
  split
  · exact hLeft
  · dsimp only
    split
    · rw [(same_failAndStop settings _).left]
      exact hLeft
    · split
      · rw [(same_failAndStop settings _).left]
        exact hLeft
      · refine (starts_startSession settings _ _).left.trans ?_
        split
        · exact hLeft
        · exact le_rfl

-- Whole Chases

def Orderly (settings : Settings) (s : Service) (event : Event) : Prop :=
  ∀ reaction ∈ react settings s event, ∀ config ∈ reaction.start,
    reaction.service.connected = false → InStep settings config reaction.service

instance (settings : Settings) (s : Service) (event : Event) :
  Decidable (Orderly settings s event) := by
  unfold Orderly
  infer_instance

def Continues (s : Service) : Event → Prop
| .connect _ => s.connected = true
| _ => True

instance (s : Service) (event : Event) : Decidable (Continues s event) := by
  cases event <;> unfold Continues <;> infer_instance

lemma counted_of_continues (hContinues : Continues s event) : counted s event = s := by
  cases event with
  | connect => exact if_pos hContinues
  | _ => rfl

lemma kept_step (hKept : Kept settings (counted s event)) (hOrderly : Orderly settings s event)
  (hStep : step settings s event = some s') : Kept settings s' := by
  rcases Option.map_eq_some_iff.mp hStep with ⟨reaction, hReact, rfl⟩
  have hHandled := hKept.spends (spends_react hReact)
  cases hStart : reaction.start with
  | none => exact hHandled
  | some config => exact kept_startTunnel hHandled (hOrderly reaction hReact config hStart)

lemma left_step (hLeft : s.exitRotationsLeft ≤ settings.budget)
  (hStep : step settings s event = some s') : s'.exitRotationsLeft ≤ settings.budget := by
  rcases Option.map_eq_some_iff.mp hStep with ⟨reaction, hReact, rfl⟩
  have hHandled : reaction.service.exitRotationsLeft ≤ settings.budget := by
    apply (spends_react hReact).left.trans
    cases event with
    | connect =>
      unfold counted
      dsimp only
      split
      all_goals exact hLeft
    | _ => exact hLeft
  cases reaction.start with
  | none => exact hHandled
  | some config => exact left_startTunnel config hHandled

lemma left_of_reaches
  {pinFile : Option Pin} (hRun : Reaches (step settings) Always (fresh pinFile) s) :
  s.exitRotationsLeft ≤ settings.budget := by
  apply hRun.invariant (I := fun s => s.exitRotationsLeft ≤ settings.budget)
  · exact Nat.zero_le _
  · intro s s' event hLeft _ hStep
    exact left_step hLeft hStep

/-
  After any history of the service, the chase of a user connect whose starts are all in step
  forces the policy's seeds in order, each once, and stays within its budget.
-/
theorem chase_kept_of_orderly
    {settings : Settings}
    {pinFile : Option Pin}
    {config : Option Config}
    {s s' t : Service}
    (hBefore : Reaches (step settings) Always (fresh pinFile) s)
    (hDown : s.connected = false)
    (hConnect : step settings s (.connect config) = some s')
    (hOrderly : Orderly settings s (.connect config))
    (hRun :
      Reaches (step settings) (fun s event => Continues s event ∧ Orderly settings s event) s'
        t) :
    t.forced.Nodup ∧
    Walk.InOrder settings.seeds t.forced ∧
    t.rotations ≤ max settings.seeds.length 3 := by
  have hCounted : Kept settings (counted s (.connect config)) := by
    have hLeft := left_of_reaches hBefore
    simp only [counted, hDown]
    exact ⟨.nil, by simpa using hLeft⟩
  have hFirst := kept_step hCounted hOrderly hConnect
  have hKept : Kept settings t := by
    apply hRun.invariant hFirst
    rintro s s' event hKept ⟨hContinues, hOrderly⟩ hStep
    apply kept_step _ hOrderly hStep
    rw [counted_of_continues hContinues]
    exact hKept
  exact ⟨hKept.order.nodup, hKept.order, (Nat.le_add_right _ _).trans hKept.within⟩

def sampleSeed (endpoint country : String) : ExitEndpoint where
  endpoint := endpoint.toList
  country := country.toList
  transports := [gool]

def sampleSettings : Settings where
  exitCountry := some "GB".toList
  exitEndpoints := [sampleSeed "192.0.2.1:890" "GB", sampleSeed "192.0.2.2:890" "US"]
  autoReconnect := false
  killSwitch := false
  proxyOnly := false

def sampleConfig : Config where
  protocol := gool
  chained := false
  forcedPeer := none

def wrongExit : List Event := [.exitIp, .answer (some "DE".toList) []]

def rotation : List Event := [.rotationDue, .coreEnded .clean false, .restartDue false]

/-
  The first chase loses its tunnel while a rotation is under way, and the user connects before the
  rotation's timer runs down.
-/
theorem second_chase_kept : ∃ t : Service, t.forced = sampleSettings.seeds ∧
  t.rotations = 1 ∧ t.forced.Nodup ∧ Walk.InOrder sampleSettings.seeds t.forced ∧
  t.rotations ≤ max sampleSettings.seeds.length 3 := by
  let connect := Event.connect (some sampleConfig)
  let before := connect :: wrongExit ++ [.lost]
  let s := (Run.exec (step sampleSettings) (fresh none) before).getD (fresh none)
  let s' := (step sampleSettings s connect).getD s
  let t := (Run.exec (step sampleSettings) s' (wrongExit ++ rotation)).getD s'
  have hBefore : Reaches (step sampleSettings) Always (fresh none) s :=
    .of_exec .start (by decide +kernel) (Run.taken_always _ _ before)
  have hExec : Run.exec (step sampleSettings) s' (wrongExit ++ rotation) = some t := by
    decide +kernel
  have hRun : Reaches (step sampleSettings) (fun s event =>
        Continues s event ∧ Orderly sampleSettings s event)
      s' t :=
    .of_exec .start hExec (by decide +kernel)
  have hKept := chase_kept_of_orderly hBefore (by decide +kernel)
    (show step sampleSettings s connect = some s' by decide +kernel)
    (by decide +kernel) hRun
  exact ⟨t, by decide +kernel, by decide +kernel, hKept⟩

/- On a fresh service a connect forces the first seed. -/
theorem first_seed_forced_twice : ¬ ∀ (settings : Settings) (pinFile : Option Pin) (config :
  Config) (s s' t : Service), settings.wantedCountry.isSome = true → config.protocol = gool →
  Reaches (step settings) Always (fresh pinFile) s → s.connected = false →
  exitPin { s with currentProtocol := gool } = none → step settings s (.connect (some config)) =
  some s' → Reaches (step settings) Continues s' t → t.forced.Nodup ∧
  Walk.InOrder settings.seeds t.forced ∧ t.rotations ≤ max settings.seeds.length 3 := by
  intro hAll
  let connect := Event.connect (some sampleConfig)
  let s' := (step sampleSettings (fresh none) connect).getD (fresh none)
  let t := (Run.exec (step sampleSettings) s' (wrongExit ++ rotation)).getD s'
  have hExec : Run.exec (step sampleSettings) s' (wrongExit ++ rotation) = some t := by
    decide +kernel
  have hRun : Reaches (step sampleSettings) Continues s' t :=
    .of_exec .start hExec (by decide +kernel)
  have hKept := hAll sampleSettings none sampleConfig (fresh none) s' t
    (by decide) rfl .start rfl rfl (by decide +kernel) hRun
  revert hKept
  decide +kernel

end Kourosh.ExitCountry
