import Kourosh.Basic

/-
  The validation of a WireGuard endpoint.

  Behind the handshake, `verify_dataplane` sends small probes until enough of them came back, and
  then echo requests down a ladder of sizes.
-/

-- Probes

namespace Kourosh.Wireguard

def dataplaneRequiredSuccesses : Nat := 2

def dataplaneProbeGap : Nat := 600

/- `PROBE_LADDER`, the largest size first. -/
def probeLadder : List Nat := [1200, 1000, 800, 576]

def ladderStepBudget : Nat := 1200

def resendAfter : Nat := 700

def largeProbeId : UInt16 := 0x4d47

abbrev Rung := Fin probeLadder.length

def Rung.size (rung : Rung) : Nat := probeLadder.get rung

/- `PROBE_LADDER.get(next)` behind a rung. -/
def Rung.next (rung : Rung) : Option Rung :=
  if h : rung.val + 1 < probeLadder.length then some ⟨rung.val + 1, h⟩
  else none

/- `*PROBE_LADDER.last().unwrap_or(&576)`. -/
def ladderFloor : Nat := probeLadder.getLast?.getD 576

inductive Probe where
  | small
  | large (rung : Rung)
deriving DecidableEq

def isLargeProbeReply (pkt : Bytes) : Bool :=
  let ihl := (byteAt pkt 0 &&& 0x0f).toNat * 4
  if pkt.length < 28 then false
  else if byteAt pkt 0 >>> 4 ≠ 4 ∨ byteAt pkt 9 ≠ 1 then false
  else if pkt.length < ihl + 8 then false
  else byteAt pkt ihl == 0 && u16At pkt (ihl + 4) == largeProbeId

-- The Data Plane

/- The variables of `verify_dataplane`. -/
structure Dataplane where
  deadline : Nat
  successes : Nat
  -- the second stage, once it has begun
  rung : Option Rung
  rungDeadline : Nat
  lastProbeAt : Nat
  resendAt : Nat
  -- the probes in the order they were sent
  sent : List Probe
deriving DecidableEq

/- What `decapsulate` makes of a datagram. -/
inductive TunnResult where
  | done
  | err
  | writeToNetwork
  | writeToTunnel (pkt : Bytes)

/- The arm of the `select!` that is taken. -/
inductive Arm where
  | recvFailed (text : String)
  | received (now : Nat) (result : TunnResult)
  | slept

inductive Turn where
  | again (dataplane : Dataplane)
  | published (size : Nat)
  | failed (error : AetherError)
deriving DecidableEq

namespace Dataplane

def start (now deadline : Nat) : Dataplane where
  deadline := deadline
  successes := 0
  rung := none
  rungDeadline := deadline
  lastProbeAt := now
  resendAt := now + resendAfter
  sent := [.small]

def send (dp : Dataplane) (probe : Probe) (now : Nat) : Dataplane :=
  { dp with lastProbeAt := now, resendAt := now + resendAfter, sent := dp.sent ++ [probe] }

def probe (dp : Dataplane) : Probe := (dp.rung.map Probe.large).getD .small

def climb (dp : Dataplane) (rung : Rung) (now : Nat) : Dataplane :=
  { dp.send (.large rung) now with rung := some rung, rungDeadline := now + ladderStepBudget }

def due (dp : Dataplane) (now : Nat) : Option Rung :=
  if dp.rungDeadline ≤ now then dp.rung.bind Rung.next
  else none

def settle (dp : Dataplane) (now : Nat) : Dataplane :=
  if dp.rung.isSome ∧ dp.rungDeadline ≤ now then { dp with rungDeadline := dp.deadline }
  else dp

def resend (dp : Dataplane) (now : Nat) : Dataplane :=
  if dp.resendAt ≤ now then dp.send dp.probe now else dp

def confirm (dp : Dataplane) (now : Nat) : Dataplane :=
  let dp := { dp with successes := dp.successes + 1 }
  let nextAt := max now (dp.lastProbeAt + dataplaneProbeGap)
  if dataplaneRequiredSuccesses ≤ dp.successes then dp.climb ⟨0, by decide⟩ nextAt
  else dp.send .small nextAt

def onPacket (dp : Dataplane) (now : Nat) (pkt : Bytes) : Turn :=
  match dp.rung with
  | some rung =>
    if isLargeProbeReply pkt then .published rung.size
    else .again dp
  | none => .again (dp.confirm now)

/- The `select!` at the end of the loop. -/
def select (dp : Dataplane) : Arm → Turn
| .recvFailed text => .failed (.io text)
| .received now (.writeToTunnel pkt) => dp.onPacket now pkt
| .received _ .done => .again dp
| .received _ .err => .again dp
| .received _ .writeToNetwork => .again dp
| .slept => .again dp

def turn (dp : Dataplane) (now : Nat) (arm : Arm) : Turn :=
  if dp.deadline ≤ now then
    match dp.rung with
    | some _ => .published ladderFloor
    | none => .failed (.other "dataplane timeout")
  else
    match dp.due now with
    | some rung => .again (dp.climb rung now)
    | none => ((dp.settle now).resend now).select arm

lemma floor_mem : ladderFloor ∈ probeLadder := by decide

lemma published_cases {dp : Dataplane} {now : Nat} {arm : Arm} {size : Nat}
  (hTurn : dp.turn now arm = .published size) :
  (dp.deadline ≤ now ∧ (∃ rung, dp.rung = some rung) ∧ size = ladderFloor) ∨
  ∃ at_ pkt rung, arm = .received at_ (.writeToTunnel pkt) ∧ isLargeProbeReply pkt ∧
    ((dp.settle now).resend now).rung = some rung ∧ size = rung.size := by
  unfold turn at hTurn
  split at hTurn
  next hLate =>
    split at hTurn
    next rung hRung =>
      cases hTurn
      exact .inl ⟨hLate, ⟨rung, hRung⟩, rfl⟩
    next => cases hTurn
  next =>
    split at hTurn
    next => cases hTurn
    next =>
      cases arm with
      | recvFailed | slept => cases hTurn
      | received at_ result =>
        cases result with
        | done | err | writeToNetwork => cases hTurn
        | writeToTunnel pkt =>
          simp only [select, onPacket] at hTurn
          split at hTurn
          next rung hRung =>
            split at hTurn
            next hReply =>
              cases hTurn
              exact .inr ⟨at_, pkt, rung, rfl, hReply, hRung, rfl⟩
            next => cases hTurn
          next => cases hTurn

lemma published_mem {dp : Dataplane} {now : Nat} {arm : Arm} {size : Nat}
  (hTurn : dp.turn now arm = .published size) : size ∈ probeLadder := by
  rcases published_cases hTurn with ⟨-, -, rfl⟩ | ⟨_, _, rung, -, -, -, rfl⟩
  · exact floor_mem
  · exact List.get_mem _ _

end Dataplane

-- A Validation

/-
  A call of `verify_endpoint_keep_session`: the handshake with a peer and, if it is asked for, the
  data plane behind it.
-/
structure Validation where
  peer : SocketAddr
  dataCheck : Bool
  -- the data plane, once the handshake is done
  dataplane : Option Dataplane

inductive Input where
  -- the handshake is done, with the first small probe
  | handshake (now deadline : Nat)
  -- the handshake fails or times out, or its probe is not sent
  | fail (error : AetherError)
  | turn (now : Nat) (arm : Arm)

inductive Progress where
  | running (validation : Validation)
  -- passed, with the size that was stored on the way
  | passed (size : Option Nat)
  | failed (error : AetherError)

namespace Validation

def start (peer : SocketAddr) (dataCheck : Bool) : Validation where
  peer := peer
  dataCheck := dataCheck
  dataplane := none

def step (v : Validation) : Input → Option Progress
| .handshake now deadline =>
  match v.dataplane with
  | some _ => none
  | none =>
    if v.dataCheck then some (.running { v with dataplane := some (.start now deadline) })
    else some (.passed none)
| .fail error =>
  match v.dataplane with
  | some _ => none
  | none => some (.failed error)
| .turn now arm =>
  match v.dataplane with
  | none => none
  | some dp =>
    match dp.turn now arm with
    | .again dp => some (.running { v with dataplane := some dp })
    | .published size => some (.passed (some size))
    | .failed error => some (.failed error)

lemma passed_mem {v : Validation} {input : Input}
  {size : Nat} (hStep : v.step input = some (.passed (some size))) : size ∈ probeLadder := by
  cases hDp : v.dataplane with
  | none =>
    cases input with
    | handshake =>
      simp only [step, hDp] at hStep
      split at hStep <;> cases hStep
    | fail | turn => simp [step, hDp] at hStep
  | some dp =>
    cases input with
    | handshake | fail => simp [step, hDp] at hStep
    | turn now arm =>
      simp only [step, hDp] at hStep
      cases hTurn : dp.turn now arm with
      | again | failed => simp [hTurn] at hStep
      | published =>
        simp only [hTurn, Option.some.injEq, Progress.passed.injEq] at hStep
        exact hStep ▸ Dataplane.published_mem hTurn

end Validation

end Kourosh.Wireguard
