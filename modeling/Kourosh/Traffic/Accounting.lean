import Kourosh.Lib.Run

/-
  The monthly traffic totals of the service.
-/

-- The Totals

namespace Kourosh.Traffic

open Function
open Option

inductive Direction where
  | tx
  | rx

abbrev Amount := Direction → Nat

def Amount.zero : Amount := fun _ => 0

/- The key of a month, `yyyy-MM`. -/
structure Month where
  year : Nat
  month : Nat
deriving DecidableEq

structure Prefs where
  schema : Nat
  month : Option Month
  totals : Amount

def trafficSchemaVersion : Nat := 1

def trafficFlushMs : Nat := 60000

def sampleGapMs : Nat := 900

structure Ledger where
  monthKey : Option Month
  monthTotal : Amount
  -- the file as the process sees it, and as it is on disk
  prefs : Prefs
  disk : Prefs

namespace Ledger

def create (disk : Prefs) : Ledger where
  monthKey := none
  monthTotal := .zero
  prefs := disk
  disk := disk

def flushMonthlyTraffic (l : Ledger) : Ledger :=
  match l.monthKey with
  | none => l
  | some month =>
    { l with
      prefs := { l.prefs with month := some month, totals := l.monthTotal } }

def discard (l : Ledger) (month : Month) : Ledger :=
  let prefs : Prefs := { schema := trafficSchemaVersion, month := none, totals := .zero }
  { l with prefs := prefs, disk := prefs, monthTotal := .zero, monthKey := some month }

def reload (l : Ledger) (month : Month) : Ledger :=
  { l with
    monthTotal := if l.prefs.month = some month then l.prefs.totals else .zero,
    monthKey := some month }

def loadMonthlyTotals (l : Ledger) (month : Month) : Ledger :=
  if l.monthKey = some month then l
  else if l.flushMonthlyTraffic.prefs.schema < trafficSchemaVersion then
    l.flushMonthlyTraffic.discard month
  else l.flushMonthlyTraffic.reload month

def recordMonthlyTraffic (l : Ledger) (month : Month) (delta : Amount) : Ledger :=
  let l := l.loadMonthlyTotals month
  { l with monthTotal := fun d => l.monthTotal d + delta d }

/- `apply()` reaches the disk. -/
def persist (l : Ledger) : Ledger := { l with disk := l.prefs }

end Ledger

-- Samples

structure Service where
  lastTrafficSampleMs : Nat
  lastTrafficFlushMs : Nat
  prevSpeedSampleMs : Nat
  prev : Amount
  currentSpeed : Amount
  accounted : Amount
  ledger : Ledger

namespace Service

def create (disk : Prefs) : Service where
  lastTrafficSampleMs := 0
  lastTrafficFlushMs := 0
  prevSpeedSampleMs := 0
  prev := .zero
  currentSpeed := .zero
  accounted := .zero
  ledger := .create disk

def resetSessionTraffic (t : Service) (month : Month) : Service :=
  { t with
    ledger := t.ledger.loadMonthlyTotals month, prev := .zero, currentSpeed := .zero,
    accounted := .zero, prevSpeedSampleMs := 0, lastTrafficSampleMs := 0 }

def Backwards (t : Service) (count : Amount) : Prop :=
  count .tx < t.prev .tx ∨ count .rx < t.prev .rx ∨
    count .tx < t.accounted .tx ∨ count .rx < t.accounted .rx

instance (t : Service) (count : Amount) :
  Decidable (t.Backwards count) := inferInstanceAs (Decidable (_ ∨ _ ∨ _ ∨ _))

def rebase (t : Service) (count : Amount) : Service :=
  if t.Backwards count then
    { t with prev := .zero, accounted := .zero, prevSpeedSampleMs := 0, currentSpeed := .zero }
  else t

def measure (t : Service) (now : Nat) (count : Amount) : Service :=
  let elapsed := now - t.prevSpeedSampleMs
  { t with
    currentSpeed :=
      if 0 < elapsed ∧ 0 < t.prevSpeedSampleMs then fun d => (count d - t.prev d) * 1000 / elapsed
      else t.currentSpeed
    prev := count
    prevSpeedSampleMs := now }

def account (t : Service) (month : Month) (count : Amount) : Service :=
  { t with
    ledger := t.ledger.recordMonthlyTraffic month (fun d => count d - t.accounted d),
    accounted := count }

def flushWhenDue (t : Service) (now : Nat) : Service :=
  if t.lastTrafficFlushMs + trafficFlushMs ≤ now then
    { t with ledger := t.ledger.flushMonthlyTraffic, lastTrafficFlushMs := now }
  else t

def Throttled (t : Service) (now : Nat) : Prop := now < t.lastTrafficSampleMs + sampleGapMs

instance (t : Service) (now : Nat) :
  Decidable (t.Throttled now) := inferInstanceAs (Decidable (_ < _))

def consume (t : Service) (now : Nat) (month : Month) (count : Amount) : Service :=
  { ((((t.rebase count).measure now count).account month count).flushWhenDue now) with
    lastTrafficSampleMs := now }

def updateTrafficNotification (t : Service) (now : Nat) (month : Month)
  (count : Amount) : Service :=
  if t.Throttled now then t else t.consume now month count

end Service

-- Tunnels, Calendar And Process

structure Tunnel where
  id : Nat
  base : Amount

structure Sample where
  tunnel : Nat
  base : Amount
  count : Amount

inductive Lives where
  | untouched
  -- one tunnel, raised in the month for a new session
  | single (tunnel : Nat)
  | mixed
deriving DecidableEq

structure Usage where
  service : Service
  clock : Month
  -- all bytes that were ever moved
  odometer : Amount
  tunnel : Option Tunnel
  tunnels : Nat
  inFlight : List Sample
  -- the last sample that was not throttled
  consumed : Option Sample
  -- no sample was consumed since the session was reset
  announced : Bool
  -- the bytes moved in a month
  moved : Month → Amount
  -- the bytes not yet sampled when a month began
  carried : Month → Amount
  lives : Month → Lives

inductive Event where
  | raise
  | move (amount : Amount)
  | emit
  | drop
  | deliver (now : Nat)
  | reset
  | flush
  | persist
  | rollOver (month : Month)
  | restart

def Tunnel.sample (odometer : Amount) (tunnel : Tunnel) : Sample where
  tunnel := tunnel.id
  base := tunnel.base
  count := fun d => odometer d - tunnel.base d

def Sample.stamp (sample : Sample) : Amount := fun d => sample.base d + sample.count d

namespace Usage

/- The first start of this build, over whatever file an older build left. -/
def init (clock : Month) (legacy : Option Month × Amount) : Usage where
  service :=
    .create { schema := 0, month := legacy.1, totals := legacy.2 }
  clock := clock
  odometer := .zero
  tunnel := none
  tunnels := 0
  inFlight := []
  consumed := none
  announced := true
  moved := fun _ => .zero
  carried := fun _ => .zero
  lives := fun _ => .untouched

def current (u : Usage) : Option Sample := u.tunnel.map (Tunnel.sample u.odometer)

def consumedAt (u : Usage) : Amount := (u.consumed.map Sample.stamp).getD .zero

def pending (u : Usage) : Amount := fun d => u.odometer d - u.consumedAt d

def livesRaised (u : Usage) : Lives :=
  if u.lives u.clock = .untouched ∧ u.announced then .single u.tunnels
  else .mixed

def livesRolled (u : Usage) (month : Month) : Lives :=
  if u.lives month = .untouched ∧ u.tunnel.isNone ∧ u.inFlight.isEmpty then .untouched
  else .mixed

def livesRestarted (u : Usage) : Lives :=
  if u.lives u.clock = .untouched then .untouched else .mixed

def onSample (u : Usage) (now : Nat) (sample : Sample) (rest : List Sample) : Usage :=
  { u with
    service := u.service.updateTrafficNotification now u.clock sample.count, inFlight := rest,
    consumed := if u.service.Throttled now then u.consumed else some sample,
    announced := if u.service.Throttled now then u.announced else false }

def step (u : Usage) : Event → Option Usage
-- a tunnel counts from zero; the core may raise it silently
| .raise =>
  some { u with
    tunnel := some ⟨u.tunnels, u.odometer⟩, tunnels := u.tunnels + 1,
    lives := update u.lives u.clock u.livesRaised }
| .move amount =>
  u.tunnel.map fun _ =>
    { u with
      odometer := fun d => u.odometer d + amount d,
      moved := update u.moved u.clock fun d => u.moved u.clock d + amount d }
| .emit => u.current.map fun sample => { u with inFlight := u.inFlight ++ [sample] }
| .drop => some { u with tunnel := none }
| .deliver now =>
  match u.inFlight with
  | [] => none
  | sample :: rest => some (u.onSample now sample rest)
| .reset =>
  some { u with service := u.service.resetSessionTraffic u.clock, announced := true }
| .flush =>
  some { u with
    service := { u.service with ledger := u.service.ledger.flushMonthlyTraffic } }
| .persist =>
  some { u with
    service := { u.service with ledger := u.service.ledger.persist } }
| .rollOver month =>
  if month = u.clock then none
  else
    some { u with
      clock := month,
      carried := update u.carried month fun d => u.carried month d + u.pending d,
      lives := update u.lives month (u.livesRolled month) }
-- the tunnel lives in the process
| .restart =>
  some { u with
    service := .create u.service.ledger.disk, tunnel := none, inFlight := [], announced := true,
    lives := update u.lives u.clock u.livesRestarted }

end Usage

-- Copies Of A Total

namespace Ledger

/-
  The totals that may be taken for the total of a month:
  nothing, or what is held or stored for it.
-/
inductive Copy (l : Ledger) (month : Month) : Amount → Prop where
  | zero : Copy l month .zero
  | held (hKey : l.monthKey = some month) : Copy l month l.monthTotal
  | stored (hSchema : trafficSchemaVersion ≤ l.prefs.schema)
    (hMonth : l.prefs.month = some month) : Copy l month l.prefs.totals
  | onDisk (hSchema : trafficSchemaVersion ≤ l.disk.schema)
    (hMonth : l.disk.month = some month) : Copy l month l.disk.totals

variable {l : Ledger} {month month' : Month} {total : Amount}

lemma copy_of_create {disk : Prefs} (hDisk : l.disk = disk)
  (hCopy : Copy (.create disk) month total) : Copy l month total := by
  subst hDisk
  cases hCopy with
  | zero => exact .zero
  | held hKey => cases hKey
  | stored hSchema hMonth | onDisk hSchema hMonth => exact .onDisk hSchema hMonth

lemma copy_of_persist (hCopy : Copy l.persist month total) : Copy l month total := by
  cases hCopy with
  | zero => exact .zero
  | held hKey => exact .held hKey
  | stored hSchema hMonth | onDisk hSchema hMonth => exact .stored hSchema hMonth

@[simp] lemma flush_kept (l : Ledger) : l.flushMonthlyTraffic.monthKey = l.monthKey ∧
  l.flushMonthlyTraffic.monthTotal = l.monthTotal := by
  unfold flushMonthlyTraffic
  split <;> exact ⟨rfl, rfl⟩

lemma copy_of_flush (hCopy : Copy l.flushMonthlyTraffic month total) : Copy l month total := by
  unfold flushMonthlyTraffic at hCopy
  cases hKey : l.monthKey with
  | none =>
    simp only [hKey] at hCopy
    exact hCopy
  | some =>
    simp only [hKey] at hCopy
    cases hCopy with
    | zero => exact .zero
    | held hKey' => exact .held (hKey.trans hKey')
    | stored _ hMonth => exact .held (hKey.trans hMonth)
    | onDisk hSchema hMonth => exact .onDisk hSchema hMonth

lemma copy_of_discard (hCopy : Copy (l.discard month) month' total) : Copy l month' total := by
  cases hCopy with
  | zero | held => exact .zero
  | stored _ hMonth | onDisk _ hMonth => cases hMonth

lemma copy_of_reload (hSchema : trafficSchemaVersion ≤ l.prefs.schema)
  (hCopy : Copy (l.reload month) month' total) : Copy l month' total := by
  cases hCopy with
  | zero => exact .zero
  | held hKey =>
    cases hKey
    change Copy l month (if l.prefs.month = some month then l.prefs.totals
      else .zero)
    split
    next hMonth => exact .stored hSchema hMonth
    next => exact .zero
  | stored hSchema' hMonth => exact .stored hSchema' hMonth
  | onDisk hSchema' hMonth => exact .onDisk hSchema' hMonth

lemma copy_of_load (hCopy : Copy (l.loadMonthlyTotals month) month' total) :
  Copy l month' total := by
  unfold loadMonthlyTotals at hCopy
  split at hCopy
  · exact hCopy
  · split at hCopy
    next => exact copy_of_flush (copy_of_discard hCopy)
    next hSchema => exact copy_of_flush (copy_of_reload (Nat.le_of_not_lt hSchema) hCopy)

lemma load_monthKey (l : Ledger) (month : Month) :
  (l.loadMonthlyTotals month).monthKey = some month := by
  unfold loadMonthlyTotals
  split
  next hKey => exact hKey
  next => split <;> rfl

lemma load_of_monthKey (hKey : l.monthKey = some month) :
  l.loadMonthlyTotals month = l := if_pos hKey

lemma copy_of_record {delta : Amount}
  (hCopy : Copy (l.recordMonthlyTraffic month delta) month' total) : Copy l month' total ∨
  month' = month ∧ total = fun d => (l.loadMonthlyTotals month).monthTotal d + delta d := by
  cases hCopy with
  | zero => exact .inl .zero
  | held hKey =>
    change (l.loadMonthlyTotals month).monthKey = _ at hKey
    rw [load_monthKey] at hKey
    cases hKey
    exact .inr ⟨rfl, rfl⟩
  | stored hSchema hMonth => exact .inl (copy_of_load (.stored hSchema hMonth))
  | onDisk hSchema hMonth => exact .inl (copy_of_load (.onDisk hSchema hMonth))

end Ledger

namespace Service

open Ledger

@[simp] lemma rebase_ledger (t : Service) (count : Amount) :
  (t.rebase count).ledger = t.ledger := by
  unfold rebase
  split <;> rfl

def delta (t : Service) (count : Amount) : Amount := fun d => count d - (t.rebase count).accounted d

variable {t : Service}

lemma delta_of_le {count : Amount} (hPrev : t.prev = t.accounted)
  (hLe : ∀ d, t.accounted d ≤ count d) (d : Direction) :
  t.delta count d = count d - t.accounted d := by
  have hForwards : ¬ t.Backwards count := by
    unfold Backwards
    have hTx := hLe .tx
    have hRx := hLe .rx
    rw [hPrev]
    omega
  rw [delta, rebase, if_neg hForwards]

lemma delta_of_zero (hZero : t.accounted = .zero) (count : Amount) : t.delta count = count := by
  have hBase : (t.rebase count).accounted = .zero := by
    unfold rebase
    split
    · rfl
    · exact hZero
  funext d
  rw [delta, hBase]
  exact Nat.sub_zero _

section

variable (t : Service) (now : Nat) (month : Month) (count : Amount)

@[simp] lemma consume_sample : (t.consume now month count).accounted = count ∧
  (t.consume now month count).prev = count := by
  unfold consume flushWhenDue
  split <;> exact ⟨rfl, rfl⟩

lemma consume_ledger : let recorded := t.ledger.recordMonthlyTraffic month (t.delta count)
  (t.consume now month count).ledger = recorded ∨ (t.consume now month count).ledger =
    recorded.flushMonthlyTraffic := by
  have hLedger := rebase_ledger t count
  unfold consume flushWhenDue
  split
  · right
    simp only [account, measure, hLedger]
    rfl
  · left
    simp only [account, measure, hLedger]
    rfl

end

lemma copy_of_consume {now : Nat} {month month' : Month}
  {count total : Amount} (hCopy : Copy (t.consume now month count).ledger month' total) :
  Copy t.ledger month' total ∨ month' = month ∧
  total = fun d => (t.ledger.loadMonthlyTotals month).monthTotal d + t.delta count d := by
  rcases consume_ledger t now month count with hLedger | hLedger
  · rw [hLedger] at hCopy
    exact copy_of_record hCopy
  · rw [hLedger] at hCopy
    exact copy_of_record (copy_of_flush hCopy)

lemma consume_monthTotal (t : Service) (now : Nat)
  (month : Month) (count : Amount) : (t.consume now month count).ledger.monthKey = some month ∧
  (t.consume now month count).ledger.monthTotal =
  fun d => (t.ledger.loadMonthlyTotals month).monthTotal d + t.delta count d := by
  rcases consume_ledger t now month count with hLedger | hLedger
  · rw [hLedger]
    exact ⟨load_monthKey _ _, rfl⟩
  · rw [hLedger, (flush_kept _).1, (flush_kept _).2]
    exact ⟨load_monthKey _ _, rfl⟩

end Service

-- What A Step Does

namespace Usage

inductive Stepped (u : Usage) : Event → Usage → Prop where
  | raise : Stepped u .raise { u with
    tunnel := some ⟨u.tunnels, u.odometer⟩, tunnels := u.tunnels + 1,
    lives := update u.lives u.clock u.livesRaised }
  | move {tunnel : Tunnel}
    {amount : Amount} (hTunnel : u.tunnel = some tunnel) : Stepped u (.move amount) { u with
      odometer := fun d => u.odometer d + amount d,
      moved := update u.moved u.clock fun d => u.moved u.clock d + amount d }
  | emit {sample : Sample} (hCurrent : u.current = some sample) :
    Stepped u .emit { u with inFlight := u.inFlight ++ [sample] }
  | drop : Stepped u .drop { u with tunnel := none }
  | throttled {now : Nat} {sample : Sample} {rest : List Sample}
    (hInFlight : u.inFlight = sample :: rest) (hThrottled : u.service.Throttled now) :
    Stepped u (.deliver now) { u with inFlight := rest }
  | consumed
    {now : Nat} {sample : Sample} {rest : List Sample} (hInFlight : u.inFlight = sample :: rest)
    (hConsumed : ¬ u.service.Throttled now) : Stepped u (.deliver now) { u with
      service := u.service.consume now u.clock sample.count, inFlight := rest,
      consumed := some sample, announced := false }
  | reset : Stepped u .reset
    { u with service := u.service.resetSessionTraffic u.clock, announced := true }
  | flush : Stepped u .flush { u with
    service := { u.service with ledger := u.service.ledger.flushMonthlyTraffic } }
  | persist : Stepped u .persist { u with
    service := { u.service with ledger := u.service.ledger.persist } }
  | rollOver {month : Month} (hMonth : month ≠ u.clock) : Stepped u (.rollOver month) { u with
    clock := month,
    carried := update u.carried month fun d => u.carried month d + u.pending d,
    lives := update u.lives month (u.livesRolled month) }
  | restart : Stepped u .restart { u with
    service := .create u.service.ledger.disk, tunnel := none, inFlight := [],
    announced := true, lives := update u.lives u.clock u.livesRestarted }

lemma stepped_of_step {u u' : Usage} {e : Event} (hStep : u.step e = some u') : Stepped u e u' := by
  cases e with
  | raise =>
    cases hStep
    exact .raise
  | move =>
    rcases map_eq_some_iff.mp hStep with ⟨tunnel, hTunnel, rfl⟩
    exact .move hTunnel
  | emit =>
    rcases map_eq_some_iff.mp hStep with ⟨sample, hCurrent, rfl⟩
    exact .emit hCurrent
  | drop =>
    cases hStep
    exact .drop
  | deliver now =>
    cases hInFlight : u.inFlight with
    | nil => simp [step, hInFlight] at hStep
    | cons =>
      simp only [step, hInFlight, some.injEq] at hStep
      subst hStep
      by_cases hThrottled : u.service.Throttled now
      · simp only [onSample, hThrottled, if_true, Service.updateTrafficNotification]
        exact .throttled hInFlight hThrottled
      · simp only [onSample, hThrottled, if_false, Service.updateTrafficNotification]
        exact .consumed hInFlight hThrottled
  | reset =>
    cases hStep
    exact .reset
  | flush =>
    cases hStep
    exact .flush
  | persist =>
    cases hStep
    exact .persist
  | rollOver =>
    simp only [step, ite_none_left_eq_some, some.injEq] at hStep
    rcases hStep with ⟨hMonth, rfl⟩
    exact .rollOver hMonth
  | restart =>
    cases hStep
    exact .restart

end Usage

end Kourosh.Traffic
