import Kourosh.Traffic.Accounting

/-
  What the monthly totals can claim.

  Of every sample the service adds the difference to its baseline, and the baseline is the last
  sample it consumed, or zero behind a reset.

  Correctness is proven by:
    * `totals_of_steady`
-/

-- Totals And Samples

namespace Kourosh.Traffic

open Run Service
open List
open Function
open Option

namespace Usage

open Ledger

variable {u u' : Usage} {e : Event}

/-
  No total that is held or stored for a month is above what was moved in it and what was left to
  sample when it began.
-/
def Bounded (u : Usage) : Prop :=
  ∀ month total, Copy u.service.ledger month total →
    ∀ d, total d ≤ u.moved month d + u.carried month d

/-
  In a month with one tunnel, and no restart, the total is the counter of the sample that was
  consumed last.
-/
def Exact (u : Usage) : Prop := ∀ id, u.lives u.clock = .single id →
  ∀ c, u.consumed = some c → c.tunnel = id → u.service.ledger.monthKey = some u.clock ∧
    u.service.ledger.monthTotal = c.count

/-
  A sample that is consumed behind a reset is the first of its tunnel, or what was consumed of the
  tunnel before is nothing.
-/
def Steady (u : Usage) : Event → Prop
| .deliver now =>
  ¬ u.service.Throttled now → u.announced = true →
    ∀ sample ∈ u.inFlight.head?, ∀ c ∈ u.consumed, c.tunnel = sample.tunnel →
      c.count .tx = 0 ∧ c.count .rx = 0
| _ => True

instance (u : Usage) (e : Event) : Decidable (u.Steady e) :=
  match e with
  | .deliver now =>
    inferInstanceAs (Decidable (¬ u.service.Throttled now → u.announced = true →
      ∀ sample ∈ u.inFlight.head?, ∀ c ∈ u.consumed,
        c.tunnel = sample.tunnel → c.count .tx = 0 ∧ c.count .rx = 0))
  | .raise | .move _ | .emit | .drop | .reset | .flush
  | .persist | .rollOver _ | .restart => .isTrue trivial

-- The Order Of Samples

def Before (a b : Sample) : Prop := a.tunnel = b.tunnel ∧ a.base = b.base ∧
      (∀ d, a.count d ≤ b.count d) ∨
    a.tunnel < b.tunnel ∧ ∀ d, a.stamp d ≤ b.base d

lemma before_refl (a : Sample) : Before a a := .inl ⟨rfl, rfl, fun _ => Nat.le_refl _⟩

def timeline (u : Usage) : List Sample := u.consumed.toList ++ u.inFlight ++ u.current.toList

structure Ordered (u : Usage) : Prop where
  pairwise : u.timeline.Pairwise Before
  tunnel_lt : ∀ a ∈ u.timeline, a.tunnel < u.tunnels
  stamp_le : ∀ a ∈ u.timeline, ∀ d, a.stamp d ≤ u.odometer d

lemma Ordered.of_sublist (hOrdered : Ordered u) (hSublist : u'.timeline.Sublist u.timeline)
  (hTunnels : u'.tunnels = u.tunnels) (hOdometer : u'.odometer = u.odometer) : Ordered u' where
  pairwise := hOrdered.pairwise.sublist hSublist
  tunnel_lt := by
    intro a hMem
    rw [hTunnels]
    exact hOrdered.tunnel_lt a (hSublist.subset hMem)
  stamp_le := by
    intro a hMem
    rw [hOdometer]
    exact hOrdered.stamp_le a (hSublist.subset hMem)

variable {c sample : Sample} {id now : Nat} {rest : List Sample}

lemma Ordered.snoc {samples : List Sample} (hOrdered : Ordered u)
  (hSublist : samples.Sublist u.timeline) (hTimeline : u'.timeline = samples ++ [sample])
  (hTunnels : u.tunnels ≤ u'.tunnels) (hOdometer : ∀ d, u.odometer d ≤ u'.odometer d)
  (hBefore : ∀ a ∈ samples, Before a sample) (hTunnel : sample.tunnel < u'.tunnels)
  (hStamp : ∀ d, sample.stamp d ≤ u'.odometer d) : Ordered u' where
  pairwise := by
    rw [hTimeline, pairwise_append]
    refine ⟨hOrdered.pairwise.sublist hSublist, pairwise_singleton _ _, ?_⟩
    intro a hMem b hEq
    rw [mem_singleton.mp hEq]
    exact hBefore a hMem
  tunnel_lt := by
    rw [hTimeline]
    refine forall_mem_append.mpr ⟨fun a hOld => ?_, forall_mem_singleton.mpr hTunnel⟩
    have hLt := hOrdered.tunnel_lt a (hSublist.subset hOld)
    omega
  stamp_le := by
    rw [hTimeline]
    refine forall_mem_append.mpr ⟨fun a hOld d => ?_, forall_mem_singleton.mpr hStamp⟩
    exact Nat.le_trans (hOrdered.stamp_le a (hSublist.subset hOld) d) (hOdometer d)

lemma timeline_of_tunnel (hCurrent : u.current = some sample) :
  u.timeline = u.consumed.toList ++ u.inFlight ++ [sample] := by
  rw [timeline, hCurrent]
  rfl

lemma current_mem (hCurrent : u.current = some sample) : sample ∈ u.timeline := by
  rw [timeline_of_tunnel hCurrent]
  exact mem_append_right _ (mem_singleton.mpr rfl)

lemma Ordered.before_current (hOrdered : Ordered u) (hCurrent : u.current = some sample)
  {a : Sample} (hMem : a ∈ u.consumed.toList ++ u.inFlight) : Before a sample := by
  have hPairwise := hOrdered.pairwise
  rw [timeline_of_tunnel hCurrent, pairwise_append] at hPairwise
  exact hPairwise.2.2 a hMem sample (mem_singleton.mpr rfl)

lemma ordered_step (hOrdered : Ordered u) (hStep : Stepped u e u') : Ordered u' := by
  have hPast : (u.consumed.toList ++ u.inFlight).Sublist u.timeline := sublist_append_left _ _
  cases hStep with
  | raise =>
    refine hOrdered.snoc hPast rfl (Nat.le_succ _)
      (fun _ => Nat.le_refl _) ?_ (Nat.lt_succ_self _) ?_
    · intro a hMem
      have hOld := hPast.subset hMem
      exact .inr ⟨hOrdered.tunnel_lt a hOld, hOrdered.stamp_le a hOld⟩
    · intro d
      simp [Sample.stamp, Tunnel.sample]
  | @move tunnel _ hTunnel =>
    have hCurrent : u.current = some (tunnel.sample u.odometer) := by
      rw [current, hTunnel]
      rfl
    have hMem := current_mem hCurrent
    refine hOrdered.snoc hPast (timeline_of_tunnel (by rw [current, hTunnel]; exact rfl))
      (Nat.le_refl _) (fun d => Nat.le_add_right _ _) ?_ ?_ ?_
    · intro a hOld
      rcases hOrdered.before_current hCurrent hOld with ⟨hId, hSame, hCount⟩ | ⟨hId, hStamp⟩
      · refine .inl ⟨hId, hSame, ?_⟩
        intro d
        have hLe := hCount d
        simp only [Tunnel.sample] at hLe ⊢
        omega
      · exact .inr ⟨hId, hStamp⟩
    · have hLt := hOrdered.tunnel_lt _ hMem
      exact hLt
    · intro d
      have hLe := hOrdered.stamp_le _ hMem d
      simp only [Sample.stamp, Tunnel.sample] at hLe ⊢
      omega
  | @emit sample hCurrent =>
    have hMem := current_mem hCurrent
    refine hOrdered.snoc (List.Sublist.refl u.timeline) ?_ (Nat.le_refl _)
      (fun _ => Nat.le_refl _) ?_ (hOrdered.tunnel_lt sample hMem) (hOrdered.stamp_le sample hMem)
    · rw [timeline_of_tunnel hCurrent]
      change u.consumed.toList ++ (u.inFlight ++ [sample]) ++ u.current.toList = _
      rw [hCurrent, toList_some, ← append_assoc]
    · intro a hOld
      rw [timeline_of_tunnel hCurrent] at hOld
      rcases mem_append.mp hOld with hPart | hLast
      · exact hOrdered.before_current hCurrent hPart
      · rw [mem_singleton.mp hLast]
        exact before_refl sample
  | drop =>
    refine hOrdered.of_sublist ?_ rfl rfl
    change (u.consumed.toList ++ u.inFlight ++ []).Sublist _
    rw [append_nil]
    exact hPast
  | @throttled _ sample rest hInFlight =>
    refine hOrdered.of_sublist ?_ rfl rfl
    rw [timeline, timeline, hInFlight]
    exact ((sublist_cons_self sample rest).append_left _).append_right _
  | @consumed _ sample rest hInFlight =>
    refine hOrdered.of_sublist ?_ rfl rfl
    rw [timeline, timeline, hInFlight]
    change ((sample :: rest) ++ u.current.toList).Sublist _
    exact (sublist_append_right _ _).append_right _
  | reset | flush | persist | rollOver => exact hOrdered.of_sublist (.refl _) rfl rfl
  | restart =>
    refine hOrdered.of_sublist ?_ rfl rfl
    change (u.consumed.toList ++ [] ++ []).Sublist _
    rw [append_nil, append_nil]
    exact (sublist_append_left _ _).trans hPast

variable (clock : Month) (legacy : Option Month × Amount)

lemma ordered_init : Ordered (init clock legacy) where
  pairwise := .nil
  tunnel_lt := nofun
  stamp_le := nofun

-- The Baseline

structure Baseline (u : Usage) : Prop where
  prev : u.service.prev = u.service.accounted
  reset : u.announced = true → u.service.accounted = .zero
  last : u.announced = false → ∃ c, u.consumed = some c ∧ u.service.accounted = c.count

lemma baseline_init : Baseline (init clock legacy) where
  prev := rfl
  reset := fun _ => rfl
  last := nofun

lemma baseline_step (hBaseline : Baseline u) (hStep : Stepped u e u') : Baseline u' := by
  cases hStep with
  | @consumed _ sample =>
    refine ⟨?_, ?_, ?_⟩
    · simp only [consume_sample]
    · intro hAnnounced
      cases hAnnounced
    · intro _
      exact ⟨sample, rfl, (consume_sample ..).1⟩
  | reset | restart =>
    refine ⟨rfl, fun _ => rfl, ?_⟩
    intro hAnnounced
    cases hAnnounced
  | _ => exact { hBaseline with }

lemma accounted_eq_of_steady (hBaseline : Baseline u)
  (hOk : Steady u (.deliver now)) (hInFlight : u.inFlight = sample :: rest)
  (hConsumed : ¬ u.service.Throttled now) (hLast : u.consumed = some c)
  (hSame : c.tunnel = sample.tunnel) : u.service.accounted = c.count := by
  cases hAnnounced : u.announced with
  | false =>
    rcases hBaseline.last hAnnounced with ⟨c', hLast', hAccounted⟩
    rw [hLast] at hLast'
    cases hLast'
    exact hAccounted
  | true =>
    have hZero := hOk hConsumed hAnnounced sample (by rw [hInFlight]; rfl) c hLast hSame
    rw [hBaseline.reset hAnnounced]
    funext d
    cases d with
    | tx => exact hZero.1.symm
    | rx => exact hZero.2.symm

lemma Ordered.before_next (hOrdered : Ordered u)
  (hInFlight : u.inFlight = sample :: rest) (hLast : u.consumed = some c) : Before c sample := by
  have hPairwise := hOrdered.pairwise
  rw [timeline, hInFlight, hLast] at hPairwise
  exact rel_of_pairwise_cons hPairwise (mem_cons_self ..)

lemma next_mem (hInFlight : u.inFlight = sample :: rest) : sample ∈ u.timeline := by
  rw [timeline, hInFlight]
  exact mem_append_left _ (mem_append_right _ (mem_cons_self ..))

lemma delta_add_consumedAt_le (hOrdered : Ordered u) (hBaseline : Baseline u)
  (hOk : Steady u (.deliver now)) (hInFlight : u.inFlight = sample :: rest)
  (hConsumed : ¬ u.service.Throttled now) (d : Direction) :
  u.service.delta sample.count d + u.consumedAt d ≤ sample.stamp d := by
  have hDelta : u.service.delta sample.count d ≤ sample.count d := Nat.sub_le _ _
  cases hLast : u.consumed with
  | none =>
    simp only [consumedAt, hLast, Sample.stamp, map_none, getD_none, Amount.zero]
    omega
  | some =>
    simp only [consumedAt, hLast, map_some, getD_some]
    rcases hOrdered.before_next hInFlight hLast with ⟨hSame, hBase, hCount⟩ | ⟨_, hStamp⟩
    · have hAccounted := accounted_eq_of_steady hBaseline hOk hInFlight hConsumed hLast hSame
      have hExact := delta_of_le hBaseline.prev (by rw [hAccounted]; exact hCount) d
      have hLe := hCount d
      rw [hAccounted] at hExact
      simp only [Sample.stamp, hBase]
      omega
    · have hLe := hStamp d
      simp only [Sample.stamp] at hLe ⊢
      omega

-- The Bound

def Within (u : Usage) (month : Month) (total : Amount) : Prop :=
  ∀ d, total d + (if month = u.clock then u.pending d else 0) ≤ u.moved month d + u.carried month d

def AllWithin (u : Usage) : Prop :=
  ∀ month total, Copy u.service.ledger month total → Within u month total

lemma total_of_init {clock month : Month} {legacy : Option Month × Amount} {total : Amount}
  (hCopy : Copy (init clock legacy).service.ledger month total) : total = .zero := by
  cases hCopy with
  | zero => rfl
  | held hKey => cases hKey
  | stored hSchema | onDisk hSchema => cases hSchema

lemma allWithin_init : AllWithin (init clock legacy) := by
  intro month total hCopy d
  rw [total_of_init hCopy]
  simp [init, pending, Amount.zero]

lemma Within.consumed {month : Month} {total : Amount} (hWithin : Within u month total)
  (now : Nat) (rest : List Sample) (added : Amount)
  (hAdded : month = u.clock → ∀ d, added d + u.consumedAt d ≤ sample.stamp d)
  (hElse : month ≠ u.clock → added = .zero) (hStamp : ∀ d, sample.stamp d ≤ u.odometer d) : Within
    { u with
      service := u.service.consume now u.clock sample.count, inFlight := rest,
      consumed := some sample, announced := false }
    month (fun d => total d + added d) := by
  intro d
  have hRoom := hWithin d
  have hLe := hStamp d
  by_cases hMonth : month = u.clock
  · have hAdd := hAdded hMonth d
    simp only [hMonth, if_true, pending, consumedAt, map_some, getD_some] at hRoom hAdd ⊢
    omega
  · rw [hElse hMonth]
    simp only [hMonth, if_false, Amount.zero] at hRoom ⊢
    omega

lemma within_step (hOrdered : Ordered u) (hBaseline : Baseline u)
  (hWithin : AllWithin u) (hOk : Steady u e) (hStep : Stepped u e u') : AllWithin u' := by
  intro month total hCopy
  cases hStep with
  | raise | emit | drop | throttled => exact hWithin month total hCopy
  | move =>
    intro d
    have hRoom := hWithin month total hCopy d
    by_cases hMonth : month = u.clock
    · subst hMonth
      simp only [if_true, pending, consumedAt, update_self] at hRoom ⊢
      omega
    · simp only [hMonth, if_false, update_of_ne hMonth] at hRoom ⊢
      exact hRoom
  | @consumed now sample rest hInFlight hConsumed =>
    have hDelta := delta_add_consumedAt_le hOrdered hBaseline hOk hInFlight hConsumed
    have hStamp := hOrdered.stamp_le sample (next_mem hInFlight)
    rcases copy_of_consume hCopy with hOld | ⟨hMonth, hTotal⟩
    · have hNothing :=
        (hWithin month total hOld).consumed now rest .zero (fun _ d => ?_) (fun _ => rfl) hStamp
      · exact hNothing
      · have hLe := hDelta d
        simp only [Amount.zero]
        omega
    · rw [hTotal]
      refine Within.consumed (hWithin month _ (copy_of_load (.held ?_)))
        now rest _ (fun _ => hDelta) ?_ hStamp
      · rw [hMonth]
        exact load_monthKey _ _
      · intro hNe
        exact absurd hMonth hNe
  | reset => exact hWithin month total (copy_of_load hCopy)
  | flush => exact hWithin month total (copy_of_flush hCopy)
  | persist => exact hWithin month total (copy_of_persist hCopy)
  | @rollOver month' hMonth' =>
    intro d
    have hRoom := hWithin month total hCopy d
    by_cases hMonth : month = month'
    · subst hMonth
      simp only [if_true, hMonth', if_false, update_self, pending, consumedAt] at hRoom ⊢
      omega
    · simp only [hMonth, if_false, update_of_ne hMonth] at hRoom ⊢
      omega
  | restart => exact hWithin month total (copy_of_create rfl hCopy)

-- A Month With One Tunnel

def ahead (u : Usage) : List Sample := u.inFlight ++ u.current.toList

structure Solo (u : Usage) : Prop where
  -- nothing is known of a month without a tunnel
  empty :
    ∀ month, u.lives month = .untouched → ∀ total, Copy u.service.ledger month total → total = .zero
  quiet : u.lives u.clock = .untouched → u.ahead = []
  only : ∀ id, u.lives u.clock = .single id → ∀ a ∈ u.ahead, a.tunnel = id
  -- until its first sample is consumed
  fresh : ∀ id, u.lives u.clock = .single id → (∀ c ∈ u.consumed, c.tunnel ≠ id) →
    u.announced = true ∧ ∀ total, Copy u.service.ledger u.clock total → total = .zero
  exact : Exact u

lemma solo_init : Solo (init clock legacy) where
  empty := fun _ _ _ => total_of_init
  quiet := fun _ => rfl
  only := nofun
  fresh := nofun
  exact := nofun

/-
  A step that consumes nothing, takes no totals from anywhere else and leaves the month and its
  tunnels as they are.
-/
lemma Solo.of_same (hSolo : Solo u) (hClock : u'.clock = u.clock)
  (hLives : u'.lives = u.lives) (hTunnels : ∀ a ∈ u'.ahead, ∃ b ∈ u.ahead, a.tunnel = b.tunnel)
  (hConsumed : u'.consumed = u.consumed) (hAnnounced : u.announced → u'.announced)
  (hCopy : ∀ month total, Copy u'.service.ledger month total → Copy u.service.ledger month total)
  (hHeld : u.service.ledger.monthKey = some u.clock → u'.service.ledger.monthKey =
  some u.clock ∧ u'.service.ledger.monthTotal = u.service.ledger.monthTotal) : Solo u' where
  empty := by
    intro month hUntouched total hTotal
    rw [hLives] at hUntouched
    exact hSolo.empty month hUntouched total (hCopy month total hTotal)
  quiet := by
    intro hUntouched
    rw [hLives, hClock] at hUntouched
    refine eq_nil_iff_forall_not_mem.mpr fun a hMem => ?_
    rcases hTunnels a hMem with ⟨b, hOld, -⟩
    rw [hSolo.quiet hUntouched] at hOld
    cases hOld
  only := by
    intro id hSingle a hMem
    rw [hLives, hClock] at hSingle
    rcases hTunnels a hMem with ⟨b, hOld, hEq⟩
    exact hEq.trans (hSolo.only id hSingle b hOld)
  fresh := by
    intro id hSingle hNone
    rw [hLives, hClock] at hSingle
    rw [hConsumed] at hNone
    rcases hSolo.fresh id hSingle hNone with ⟨hOld, hZero⟩
    refine ⟨hAnnounced hOld, ?_⟩
    intro total hTotal
    rw [hClock] at hTotal
    exact hZero total (hCopy u.clock total hTotal)
  exact := by
    intro id hSingle c hLast hSame
    rw [hLives, hClock] at hSingle
    rw [hConsumed] at hLast
    rcases hSolo.exact id hSingle c hLast hSame with ⟨hKey, hTotal⟩
    rcases hHeld hKey with ⟨hKey', hTotal'⟩
    rw [hClock]
    exact ⟨hKey', hTotal'.trans hTotal⟩

/-
  A step that says anew what the tunnels of the current month are: none, one that is just raised,
  or several.
-/
lemma Solo.of_update
  {lives : Lives} (hSolo : Solo u) (hLives : u'.lives = update u.lives u'.clock lives)
  (hCopy : ∀ month total, Copy u'.service.ledger month total → Copy u.service.ledger month total)
  (hUntouched : lives = .untouched → u.lives u'.clock = .untouched ∧ u'.ahead = [])
  (hSingle : ∀ id, lives = .single id → u.lives u'.clock = .untouched ∧ u'.announced =
  true ∧ (∀ a ∈ u'.ahead, a.tunnel = id) ∧ ∀ c ∈ u'.consumed, c.tunnel ≠ id) : Solo u' := by
  have hNow : u'.lives u'.clock = lives := by rw [hLives, update_self]
  refine ⟨?_, ?_, ?_, ?_, ?_⟩
  · intro month hMonth total hTotal
    refine hSolo.empty month ?_ total (hCopy month total hTotal)
    by_cases hClock : month = u'.clock
    · rw [hClock]
      rw [hClock, hNow] at hMonth
      exact (hUntouched hMonth).1
    · rw [hLives, update_of_ne hClock] at hMonth
      exact hMonth
  · intro hMonth
    rw [hNow] at hMonth
    exact (hUntouched hMonth).2
  · intro id hMonth
    rw [hNow] at hMonth
    exact (hSingle id hMonth).2.2.1
  · intro id hMonth _
    rw [hNow] at hMonth
    rcases hSingle id hMonth with ⟨hOld, hAnnounced, -, -⟩
    refine ⟨hAnnounced, ?_⟩
    intro total hTotal
    exact hSolo.empty _ hOld total (hCopy _ total hTotal)
  · intro id hMonth c hLast hSame
    rw [hNow] at hMonth
    exact absurd hSame ((hSingle id hMonth).2.2.2 c hLast)

section

variable (hOrdered : Ordered u)

include hOrdered

lemma solo_raise (hSolo : Solo u) : Solo { u with
  tunnel := some ⟨u.tunnels, u.odometer⟩
  tunnels := u.tunnels + 1
  lives := update u.lives u.clock u.livesRaised } := by
  refine hSolo.of_update rfl (fun _ _ hCopy => hCopy) ?_ ?_
  · intro hRaised
    unfold livesRaised at hRaised
    split at hRaised <;> cases hRaised
  · intro id hRaised
    unfold livesRaised at hRaised
    split at hRaised
    next hFirst =>
      cases hRaised
      refine ⟨hFirst.1, hFirst.2, ?_, ?_⟩
      · intro a hMem
        have hQuiet := hSolo.quiet hFirst.1
        have hNone := (append_eq_nil_iff.mp hQuiet).1
        simp only [ahead, hNone, current, map_some, toList_some, nil_append, mem_singleton] at hMem
        rw [hMem]
        rfl
      · intro c hLast
        apply Nat.ne_of_lt
        apply hOrdered.tunnel_lt c
        rw [timeline, mem_def.mp hLast]
        exact mem_cons_self ..
    next => cases hRaised

section

variable (hBaseline : Baseline u) (hSolo : Solo u) (hOk : Steady u (.deliver now))
  (hInFlight : u.inFlight = sample :: rest) (hConsumed : ¬ u.service.Throttled now)

include hBaseline hSolo hOk hInFlight hConsumed

lemma total_of_single (hSingle : u.lives u.clock = .single id) : (fun d =>
  (u.service.ledger.loadMonthlyTotals u.clock).monthTotal d + u.service.delta sample.count d) =
  sample.count := by
  have hId : sample.tunnel = id := by
    apply hSolo.only id hSingle
    rw [ahead, hInFlight]
    exact mem_cons_self ..
  funext d
  by_cases hSeen : ∃ c, u.consumed = some c ∧ c.tunnel = id
  · rcases hSeen with ⟨c, hLast, hTunnel⟩
    rcases hSolo.exact id hSingle c hLast hTunnel with ⟨hKey, hTotal⟩
    have hSame := hTunnel.trans hId.symm
    have hCount : ∀ d, c.count d ≤ sample.count d := by
      rcases hOrdered.before_next hInFlight hLast with ⟨_, _, hCount⟩ | ⟨_, _⟩
      · exact hCount
      · omega
    have hAccounted := accounted_eq_of_steady hBaseline hOk hInFlight hConsumed hLast hSame
    have hDelta := delta_of_le hBaseline.prev (by rw [hAccounted]; exact hCount) d
    have hLe := hCount d
    rw [load_of_monthKey hKey, hTotal, hDelta, hAccounted]
    omega
  · have hNone : ∀ c ∈ u.consumed, c.tunnel ≠ id := by
      intro c hLast hTunnel
      exact hSeen ⟨c, hLast, hTunnel⟩
    rcases hSolo.fresh id hSingle hNone with ⟨hAnnounced, hZero⟩
    have hLoaded := hZero _ (copy_of_load (.held (load_monthKey _ _)))
    rw [hLoaded, delta_of_zero (hBaseline.reset hAnnounced)]
    exact Nat.zero_add _

lemma solo_consumed : Solo { u with
  service := u.service.consume now u.clock sample.count
  inFlight := rest
  consumed := some sample
  announced := false } := by
  have hTouched : u.lives u.clock ≠ .untouched := by
    intro hUntouched
    have hQuiet := hSolo.quiet hUntouched
    rw [ahead, hInFlight] at hQuiet
    cases hQuiet
  have hIds : ∀ id, u.lives u.clock = .single id →
    ∀ a ∈ (sample :: rest) ++ u.current.toList, a.tunnel = id := by
    intro id hSingle
    rw [← hInFlight]
    exact hSolo.only id hSingle
  refine ⟨?_, ?_, ?_, ?_, ?_⟩
  · intro month hUntouched total hCopy
    rcases copy_of_consume hCopy with hOld | ⟨hMonth, -⟩
    · exact hSolo.empty month hUntouched total hOld
    · rw [hMonth] at hUntouched
      exact absurd hUntouched hTouched
  · intro hUntouched
    exact absurd hUntouched hTouched
  · intro id hSingle a hMem
    exact hIds id hSingle a (mem_cons_of_mem _ hMem)
  · intro id hSingle hNone
    have hId := hIds id hSingle sample (mem_cons_self ..)
    exact absurd hId (hNone sample rfl)
  · intro id hSingle c hLast _
    cases hLast
    rcases consume_monthTotal u.service now u.clock sample.count with ⟨hKey, hTotal⟩
    refine ⟨hKey, hTotal.trans ?_⟩
    exact total_of_single hOrdered hBaseline hSolo hOk hInFlight hConsumed hSingle

end

lemma solo_step (hBaseline : Baseline u)
  (hSolo : Solo u) (hOk : Steady u e) (hStep : Stepped u e u') : Solo u' := by
  cases hStep with
  | raise => exact solo_raise hOrdered hSolo
  | @move tunnel _ hTunnel =>
    refine hSolo.of_same rfl rfl ?_ rfl id (fun _ _ hCopy => hCopy) (fun hKey => ⟨hKey, rfl⟩)
    intro a hMem
    rcases mem_append.mp hMem with hOld | hNow
    · exact ⟨a, mem_append_left _ hOld, rfl⟩
    · refine ⟨tunnel.sample u.odometer, mem_append_right _ ?_, ?_⟩
      · rw [current, hTunnel]
        exact mem_singleton.mpr rfl
      · simp only [current, hTunnel, map_some, toList_some, mem_singleton] at hNow
        rw [hNow]
        rfl
  | @emit sample hCurrent =>
    refine hSolo.of_same rfl rfl ?_ rfl id (fun _ _ hCopy => hCopy) (fun hKey => ⟨hKey, rfl⟩)
    intro a hMem
    refine ⟨a, ?_, rfl⟩
    rcases mem_append.mp hMem with hOld | hNow
    · rcases mem_append.mp hOld with hOld | hNew
      · exact mem_append_left _ hOld
      · rw [mem_singleton.mp hNew, ahead, hCurrent]
        exact mem_append_right _ (mem_singleton.mpr rfl)
    · exact mem_append_right _ hNow
  | drop =>
    refine hSolo.of_same rfl rfl ?_ rfl id (fun _ _ hCopy => hCopy) (fun hKey => ⟨hKey, rfl⟩)
    intro a hMem
    change a ∈ u.inFlight ++ [] at hMem
    rw [append_nil] at hMem
    exact ⟨a, mem_append_left _ hMem, rfl⟩
  | @throttled _ _ _ hInFlight =>
    refine hSolo.of_same rfl rfl ?_ rfl id (fun _ _ hCopy => hCopy) (fun hKey => ⟨hKey, rfl⟩)
    intro a hMem
    refine ⟨a, ?_, rfl⟩
    rw [ahead, hInFlight]
    exact mem_cons_of_mem _ hMem
  | @consumed _ _ _ hInFlight hConsumed =>
    exact solo_consumed hOrdered hBaseline hSolo hOk hInFlight hConsumed
  | reset =>
    refine hSolo.of_same rfl rfl (fun a hMem => ⟨a, hMem, rfl⟩) rfl (fun _ => rfl)
      (fun _ _ hCopy => copy_of_load hCopy) ?_
    intro hKey
    change (u.service.ledger.loadMonthlyTotals u.clock).monthKey = _ ∧
      (u.service.ledger.loadMonthlyTotals u.clock).monthTotal = _
    rw [load_of_monthKey hKey]
    exact ⟨hKey, rfl⟩
  | flush =>
    exact hSolo.of_same rfl rfl (fun a hMem => ⟨a, hMem, rfl⟩) rfl id
      (fun _ _ hCopy => copy_of_flush hCopy)
      fun hKey => ⟨(flush_kept _).1.trans hKey, (flush_kept _).2⟩
  | persist =>
    exact hSolo.of_same rfl rfl (fun a hMem => ⟨a, hMem, rfl⟩)
      rfl id (fun _ _ hCopy => copy_of_persist hCopy) (fun hKey => ⟨hKey, rfl⟩)
  | rollOver =>
    refine hSolo.of_update rfl (fun _ _ hCopy => hCopy) ?_ ?_
    · intro hRolled
      unfold livesRolled at hRolled
      split at hRolled
      next hOld =>
        refine ⟨hOld.1, ?_⟩
        have hTunnel := isNone_iff_eq_none.mp hOld.2.1
        have hInFlight := List.isEmpty_iff.mp hOld.2.2
        simp [ahead, current, hTunnel, hInFlight]
      next => cases hRolled
    · intro id hRolled
      unfold livesRolled at hRolled
      split at hRolled <;> cases hRolled
  | restart =>
    refine hSolo.of_update rfl (fun _ _ hCopy => copy_of_create rfl hCopy) ?_ ?_
    · intro hRestarted
      unfold livesRestarted at hRestarted
      split at hRestarted
      next hOld => exact ⟨hOld, rfl⟩
      next => cases hRestarted
    · intro id hRestarted
      unfold livesRestarted at hRestarted
      split at hRestarted <;> cases hRestarted

end

-- Whole Runs

structure Sound (u : Usage) : Prop where
  ordered : Ordered u
  baseline : Baseline u
  within : AllWithin u
  solo : Solo u

lemma sound_of_reaches {clock : Month} {legacy : Option Month × Amount}
  (hRun : Reaches step Steady (init clock legacy) u) : Sound u := by
  refine hRun.invariant ⟨ordered_init clock legacy,
    baseline_init clock legacy, allWithin_init clock legacy, solo_init clock legacy⟩ ?_
  intro s s' e hSound hOk hStep
  have hStepped := stepped_of_step hStep
  exact ⟨ordered_step hSound.ordered hStepped, baseline_step hSound.baseline hStepped,
    within_step hSound.ordered hSound.baseline hSound.within hOk hStepped,
    solo_step hSound.ordered hSound.baseline hSound.solo hOk hStepped⟩

lemma Sound.bounded (hSound : Sound u) : Bounded u := by
  intro month total hCopy d
  have hRoom := hSound.within month total hCopy d
  omega

lemma not_exact_of_not_steady (hSound : Sound u) (hStep : u.step (.deliver now) = some u')
  (hTwice : ¬ Steady u (.deliver now)) (hSingle : u.lives u.clock = .single id) : ¬ Exact u' := by
  simp only [Steady, Classical.not_imp, not_forall] at hTwice
  rcases hTwice with ⟨hConsumed, hAnnounced, sample, hHead, c, hLast, hSame, hCount⟩
  intro hExact
  cases stepped_of_step hStep with
  | throttled _ hThrottled => exact hConsumed hThrottled
  | @consumed _ _ _ hInFlight =>
    rw [hInFlight] at hHead
    cases hHead
    have hId : sample.tunnel = id := by
      apply hSound.solo.only id hSingle
      rw [ahead, hInFlight]
      exact mem_cons_self ..
    rcases hSound.solo.exact id hSingle c hLast (hSame.trans hId) with ⟨hKey, hTotal⟩
    have hAfter := (hExact id hSingle sample rfl hId).2
    have hGrown := (consume_monthTotal u.service now u.clock sample.count).2
    have hDelta := delta_of_zero (hSound.baseline.reset hAnnounced) sample.count
    have hEach : ∀ d, c.count d + sample.count d = sample.count d := by
      intro d
      have hEq := congrFun (hGrown.symm.trans hAfter) d
      rw [load_of_monthKey hKey, hTotal, hDelta] at hEq
      exact hEq
    have hTx := hEach .tx
    have hRx := hEach .rx
    apply hCount
    omega

/-
  Monthly totals: in every run in which no reset falls between two consumed samples of one tunnel,
  no total that is held or stored for a month is above what was moved, and in a month with one
  tunnel it is the tunnel's counter.
-/
theorem totals_of_steady
    {clock : Month}
    {legacy : Option Month × Amount}
    (hRun : Reaches step Steady (init clock legacy) u) :
    Bounded u ∧
    Exact u ∧
    ∀ now id u',
      u.step (.deliver now) = some u' →
      ¬ Steady u (.deliver now) →
      u.lives u.clock = .single id →
      ¬ Exact u' := by
  have hSound := sound_of_reaches hRun
  refine ⟨hSound.bounded, hSound.solo.exact, ?_⟩
  intro now id u' hStep hTwice hSingle
  exact not_exact_of_not_steady hSound hStep hTwice hSingle

def january : Month := ⟨2026, 1⟩

/- A tunnel that is sampled, and throttled, and flushed. -/
theorem totals_of_steady_january :
  ∃ u : Usage, u.service.ledger.monthKey = some january ∧ u.service.ledger.monthTotal .tx = 12 ∧
  u.service.ledger.prefs.totals .tx ≤ u.moved january .tx + u.carried january .tx := by
  rcases exists_reaches step Steady (init january (some january, fun _ => 1000000)) (fun u =>
    decide (u.service.ledger.monthKey = some january) &&
      decide (u.service.ledger.monthTotal .tx = 12) &&
      decide (u.service.ledger.prefs.schema = 1) &&
      decide (u.service.ledger.prefs.month = some january))
    [.reset, .raise, .move fun _ => 5, .emit, .deliver 60000, .move fun _ => 7, .emit,
      .deliver 60100, .emit, .deliver 61000, .persist]
    (by decide +kernel) (by decide +kernel) with
    ⟨u, hRun, hEnd⟩
  simp only [Bool.and_eq_true, decide_eq_true_eq] at hEnd
  rcases hEnd with ⟨⟨⟨hKey, hTotal⟩, hSchema⟩, hMonth⟩
  refine ⟨u, hKey, hTotal, ?_⟩
  exact (totals_of_steady hRun).1 january _ (.stored (Nat.le_of_eq hSchema.symm) hMonth) .tx

/- The last sample of a tunnel lands behind the reset for the next one. -/
theorem stale_sample_counts_twice :
  ¬ ∀ clock legacy u, Reaches step Always (init clock legacy) u → Bounded u ∧ Exact u := by
  intro hAll
  rcases exists_reaches step Always (init january (none, .zero)) (fun u =>
    decide (u.service.ledger.monthKey = some january) &&
      decide (u.service.ledger.monthTotal .tx = 200) &&
      decide (u.moved january .tx = 100) &&
      decide (u.carried january .tx = 0))
    [.reset, .raise, .move fun _ => 100, .emit, .deliver 1000, .emit, .drop, .reset, .deliver 2000]
    (taken_always _ _ _) (by decide +kernel) with
    ⟨u, hRun, hEnd⟩
  simp only [Bool.and_eq_true, decide_eq_true_eq] at hEnd
  rcases hEnd with ⟨⟨⟨hKey, _⟩, _⟩, _⟩
  have hLe := (hAll _ _ u hRun).1 january _ (.held hKey) .tx
  omega

end Usage

end Kourosh.Traffic
