import Kourosh.Lib.Expiring
import Kourosh.Tun2socks.Emission

/-
  The DNS cache of tun2socks.

  Every query from the TUN device gets a task of its own.

  Correctness is proven by:
    * `replies_are_sound`
-/

-- Queries

namespace Kourosh.Tun2socks.DnsCache

open Expiring
open Run
open List

def dnsCacheTtl : Nat := 60000

def dnsMaxInflight : Nat := 8

def maxEntries : Nat := 512

structure Query where
  srcIp : Ipv4Addr
  dstIp : Ipv4Addr
  srcPort : UInt16
  payload : Bytes

/- The packets that `handle_udp_spawn` starts a task for. -/
def queryOf (i : Inbound) : Option Query :=
  if i.packet.length < i.ihl + 8 then none
  else
    let udp := i.packet.drop i.ihl
    if u16At udp 2 ≠ 53 ∨ udp.length ≤ 8 then none
    else
      some { srcIp := i.srcIp, dstIp := i.dstIp, srcPort := u16At udp 0, payload := udp.drop 8 }

def dnsCacheKey (dnsServer : Ipv4Addr) (query : Bytes) : Bytes :=
  ipToBytes dnsServer ++ (if query.length > 2 then query.drop 2 else [])

def restoreId (payload resp : Bytes) : Bytes :=
  if resp.length ≥ 2 ∧ payload.length ≥ 2 then payload.take 2 ++ resp.drop 2
  else resp

lemma dnsCacheKey_eq_iff {server server' : Ipv4Addr}
  {query query' : Bytes} : dnsCacheKey server query = dnsCacheKey server' query' ↔
  server = server' ∧ query.drop 2 = query'.drop 2 := by
  have hKey : ∀ server query, dnsCacheKey server query = ipToBytes server ++ query.drop 2 := by
    intro server query
    rw [dnsCacheKey]
    split
    next => rfl
    next hShort => rw [drop_eq_nil_of_le (by omega)]
  rw [hKey, hKey]
  constructor
  · intro hSame
    have hParts := append_inj hSame rfl
    refine ⟨?_, hParts.2⟩
    cases server
    cases server'
    simp only [ipToBytes, cons.injEq, and_true] at hParts
    rcases hParts.1 with ⟨rfl, rfl, rfl, rfl⟩
    rfl
  · intro hSame
    rw [hSame.1, hSame.2]

-- Tasks

inductive Phase where
  | lookup
  | hit (resp : Bytes) (readAt : Nat)
  | miss
  | forwarding
  | answered (resp : Bytes)
  | inserted (resp : Bytes)
  | finished

structure Exchange where
  task : Nat
  query : Query
  answer : Bytes
  time : Nat

/- What a task passed to `send_udp`, and what it read when. -/
structure Reply where
  task : Nat
  query : Query
  datagram : Datagram
  readAt : Option Nat

structure State where
  now : Nat
  cache : List (Entry Bytes Bytes)
  permits : Nat
  tasks : List (Query × Phase)
  exchanges : List Exchange
  replies : List Reply

def init : State where
  now := 0
  cache := []
  permits := dnsMaxInflight
  tasks := []
  exchanges := []
  replies := []

inductive Event where
  | tick (elapsed : Nat)
  | arrive (i : Inbound)
  | look (task : Nat)
  | acquire (task : Nat)
  -- what `forward_dns_tcp` returns; nothing for an error
  | answer (task : Nat) (resp : Option Bytes)
  | insert (task : Nat)
  | send (task : Nat)

namespace State

def setPhase (s : State) (task : Nat) (q : Query) (phase : Phase) : State :=
  { s with tasks := s.tasks.set task (q, phase) }

def look (s : State) (task : Nat) (q : Query) : State :=
  let key := dnsCacheKey q.dstIp q.payload
  match find s.cache key with
  | some entry =>
    if entry.expires > s.now then s.setPhase task q (.hit entry.value s.now)
    else { s.setPhase task q .miss with cache := remove s.cache key }
  | none => s.setPhase task q .miss

/- `try_acquire`: without a permit the query is dropped. -/
def tryAcquire (s : State) (task : Nat) (q : Query) : State :=
  if s.permits = 0 then s.setPhase task q .finished
  else { s.setPhase task q .forwarding with permits := s.permits - 1 }

def answer (s : State) (task : Nat) (q : Query) : Option Bytes → State
| some resp =>
  { s.setPhase task q (.answered resp) with
    exchanges := s.exchanges ++ [{ task, query := q, answer := resp, time := s.now }] }
| none => { s.setPhase task q .finished with permits := s.permits + 1 }

def insert (s : State) (task : Nat) (q : Query) (resp : Bytes) : State :=
  { s.setPhase task q (.inserted resp) with
    cache := put maxEntries s.cache
      { key := dnsCacheKey q.dstIp q.payload, value := resp, expires := s.now + dnsCacheTtl } }

/- `send_udp` back to the asker. -/
def send (s : State) (task : Nat) (q : Query) (resp : Bytes) (readAt : Option Nat) : State :=
  { s.setPhase task q .finished with
    replies := s.replies ++
      [{ task
         query := q
         datagram :=
          { srcIp := q.dstIp, dstIp := q.srcIp, srcPort := 53, dstPort := q.srcPort,
            payload := resp }
         readAt }] }

end State

def step (s : State) : Event → Option State
| .tick elapsed => some { s with now := s.now + elapsed }
| .arrive i =>
  match queryOf i with
  | none => some s
  | some q => some { s with tasks := s.tasks ++ [(q, .lookup)] }
| .look task =>
  match s.tasks[task]? with
  | some (q, .lookup) => some (s.look task q)
  | _ => none
| .acquire task =>
  match s.tasks[task]? with
  | some (q, .miss) => some (s.tryAcquire task q)
  | _ => none
| .answer task resp =>
  match s.tasks[task]? with
  | some (q, .forwarding) => some (s.answer task q resp)
  | _ => none
| .insert task =>
  match s.tasks[task]? with
  | some (q, .answered resp) => some (s.insert task q resp)
  | _ => none
| .send task =>
  match s.tasks[task]? with
  | some (q, .hit resp readAt) => some (s.send task q (restoreId q.payload resp) (some readAt))
  | some (q, .inserted resp) =>
    -- the permit goes back when the task ends
    some { s.send task q resp none with permits := s.permits + 1 }
  | _ => none

-- Where Answers Come From

def Stored (exchanges : List Exchange) (now : Nat) (e : Entry Bytes Bytes) : Prop :=
  ∃ x ∈ exchanges, e.key = dnsCacheKey x.query.dstIp x.query.payload ∧ e.value = x.answer ∧
    ∃ inserted, x.time ≤ inserted ∧ inserted ≤ now ∧ e.expires = inserted + dnsCacheTtl

def Own (exchanges : List Exchange) (task : Nat) (q : Query) (resp : Bytes) : Prop :=
  ∃ x ∈ exchanges, x.task = task ∧ x.query = q ∧ x.answer = resp

/-
  An earlier answer of the same server to the same question, which had not expired when it was
  read.
-/
def Shared (exchanges : List Exchange) (q : Query) (resp : Bytes) (readAt : Nat) : Prop :=
  ∃ x ∈ exchanges, x.query.dstIp = q.dstIp ∧ x.query.payload.drop 2 = q.payload.drop 2 ∧ x.answer =
    resp ∧ ∃ inserted, x.time ≤ inserted ∧ inserted ≤ readAt ∧ readAt < inserted + dnsCacheTtl

def Held (exchanges : List Exchange) (task : Nat) (q : Query) : Phase → Prop
| .hit resp readAt => Shared exchanges q resp readAt
| .answered resp => Own exchanges task q resp
| .inserted resp => Own exchanges task q resp
| _ => True

def Justified (exchanges : List Exchange) (r : Reply) : Prop :=
  r.datagram.srcIp = r.query.dstIp ∧ r.datagram.dstIp = r.query.srcIp ∧
    r.datagram.srcPort = 53 ∧ r.datagram.dstPort = r.query.srcPort ∧
    (Own exchanges r.task r.query r.datagram.payload ∨ ∃ resp readAt, r.readAt = some readAt ∧
    Shared exchanges r.query resp readAt ∧ r.datagram.payload = restoreId r.query.payload resp)

structure Sound (s : State) : Prop where
  times : ∀ x ∈ s.exchanges, x.time ≤ s.now
  cache : Backed (Stored s.exchanges s.now) s.cache
  tasks : ∀ {task q phase}, s.tasks[task]? = some (q, phase) → Held s.exchanges task q phase
  replies : ∀ r ∈ s.replies, Justified s.exchanges r

lemma sound_init : Sound init where
  times := fun _ hMem => absurd hMem not_mem_nil
  cache := fun _ hMem => absurd hMem not_mem_nil
  tasks := nofun
  replies := fun _ hMem => absurd hMem not_mem_nil

section Later

variable {before after : List Exchange} (hLater : ∀ x ∈ before, x ∈ after)
  {q : Query} {resp : Bytes}

include hLater

lemma Stored.later {now now' : Nat} {e : Entry Bytes Bytes}
  (hNow : now ≤ now') (hStored : Stored before now e) : Stored after now' e := by
  rcases hStored with ⟨x, hMem, hKey, hValue, inserted, hTime, hLe, hExpires⟩
  exact ⟨x, hLater x hMem, hKey, hValue, inserted, hTime, Nat.le_trans hLe hNow, hExpires⟩

lemma Own.later {task : Nat} (hOwn : Own before task q resp) : Own after task q resp := by
  rcases hOwn with ⟨x, hMem, hSame⟩
  exact ⟨x, hLater x hMem, hSame⟩

lemma Shared.later {readAt : Nat}
  (hShared : Shared before q resp readAt) : Shared after q resp readAt := by
  rcases hShared with ⟨x, hMem, hSame⟩
  exact ⟨x, hLater x hMem, hSame⟩

lemma Held.later {task : Nat} {phase : Phase}
  (hHeld : Held before task q phase) : Held after task q phase := by
  cases phase with
  | lookup | miss | forwarding | finished => trivial
  | hit => exact Shared.later hLater hHeld
  | answered | inserted => exact Own.later hLater hHeld

lemma Justified.later {r : Reply} (hReply : Justified before r) : Justified after r := by
  rcases hReply with ⟨hSrc, hDst, hPort, hTo, hOwn | hShared⟩
  · exact ⟨hSrc, hDst, hPort, hTo, .inl (hOwn.later hLater)⟩
  · rcases hShared with ⟨resp, readAt, hRead, hShared, hData⟩
    exact ⟨hSrc, hDst, hPort, hTo, .inr ⟨resp, readAt, hRead, hShared.later hLater, hData⟩⟩

end Later

-- Every Step

variable {s : State}

section Steps

variable {task : Nat} {q : Query} (hSound : Sound s) {resp : Bytes}

include hSound

lemma Sound.setPhase {phase : Phase} (hHeld : Held s.exchanges task q phase) :
  Sound (s.setPhase task q phase) := by
  refine ⟨hSound.times, hSound.cache, ?_, hSound.replies⟩
  intro other q' phase' hTask
  rcases getElem?_set_cases hTask with ⟨rfl, hNew⟩ | ⟨-, hOld⟩
  · cases hNew
    exact hHeld
  · exact hSound.tasks hOld

lemma Sound.tick (elapsed : Nat) : Sound { s with now := s.now + elapsed } := by
  refine ⟨?_, ?_, hSound.tasks, hSound.replies⟩
  · intro x hMem
    exact Nat.le_trans (hSound.times x hMem) (Nat.le_add_right _ _)
  · exact hSound.cache.mono fun e hStored =>
      hStored.later (fun _ hMem => hMem) (Nat.le_add_right _ _)

lemma Sound.arrive (q : Query) : Sound { s with tasks := s.tasks ++ [(q, .lookup)] } := by
  refine ⟨hSound.times, hSound.cache, ?_, hSound.replies⟩
  intro other q' phase hTask
  rcases getElem?_append_cases hTask with hOld | hNew
  · exact hSound.tasks hOld
  · cases mem_singleton.mp hNew
    trivial

lemma Sound.look : Sound (s.look task q) := by
  rw [State.look]
  cases hFind : find s.cache (dnsCacheKey q.dstIp q.payload) with
  | none => exact hSound.setPhase trivial
  | some =>
    simp only
    split
    next hFresh =>
      refine hSound.setPhase ?_
      rcases hSound.cache.find hFind with
        ⟨⟨x, hMem, hKey, hValue, inserted, hTime, hLe, hExpires⟩, hSame⟩
      have hParts := dnsCacheKey_eq_iff.mp (hKey.symm.trans hSame)
      exact ⟨x, hMem, hParts.1, hParts.2, hValue.symm, inserted, hTime, hLe, by omega⟩
    next =>
      have hMiss : Sound (s.setPhase task q .miss) := hSound.setPhase trivial
      exact ⟨hSound.times, hSound.cache.remove _, hMiss.tasks, hMiss.replies⟩

lemma Sound.tryAcquire : Sound (s.tryAcquire task q) := by
  rw [State.tryAcquire]
  split
  next => exact hSound.setPhase trivial
  next =>
    have hNext : Sound (s.setPhase task q .forwarding) := hSound.setPhase trivial
    exact { hNext with }

lemma Sound.answer (resp : Option Bytes) : Sound (s.answer task q resp) := by
  cases resp with
  | none =>
    have hNext : Sound (s.setPhase task q .finished) := hSound.setPhase trivial
    exact { hNext with }
  | some resp =>
    have hLater : ∀ x ∈ s.exchanges, x ∈ s.exchanges ++
      [{ task, query := q, answer := resp, time := s.now }] :=
      fun x hMem => mem_append_left _ hMem
    -- the answer is recorded before the task goes on with it
    have hTold :
      Sound { s with exchanges := s.exchanges ++
        [{ task, query := q, answer := resp, time := s.now }] } := by
      refine ⟨?_, ?_, ?_, ?_⟩
      · exact forall_mem_append.mpr ⟨hSound.times, forall_mem_singleton.mpr (Nat.le_refl _)⟩
      · exact hSound.cache.mono fun e hStored => hStored.later hLater (Nat.le_refl _)
      · exact fun hTask => (hSound.tasks hTask).later hLater
      · exact fun r hMem => (hSound.replies r hMem).later hLater
    exact hTold.setPhase ⟨_, mem_append_right _ (mem_singleton_self _), rfl, rfl, rfl⟩

lemma Sound.insert
  (hTask : s.tasks[task]? = some (q, .answered resp)) : Sound (s.insert task q resp) := by
  have hOwn : Own s.exchanges task q resp := hSound.tasks hTask
  have hNext : Sound (s.setPhase task q (.inserted resp)) := hSound.setPhase hOwn
  refine ⟨hNext.times, ?_, hNext.tasks, hNext.replies⟩
  rcases hOwn with ⟨x, hMem, -, hQuery, hAnswer⟩
  refine hSound.cache.put ⟨x, hMem, ?_, hAnswer.symm, s.now,
    hSound.times x hMem, Nat.le_refl _, rfl⟩ maxEntries
  rw [hQuery]

lemma Sound.send {readAt : Option Nat} (hJustified : Own s.exchanges task q resp ∨
  ∃ found time, readAt = some time ∧ Shared s.exchanges q found time ∧
  resp = restoreId q.payload found) : Sound (s.send task q resp readAt) := by
  have hNext : Sound (s.setPhase task q .finished) := hSound.setPhase trivial
  exact ⟨hNext.times, hNext.cache, hNext.tasks, forall_mem_append.mpr
    ⟨hSound.replies, forall_mem_singleton.mpr ⟨rfl, rfl, rfl, rfl, hJustified⟩⟩⟩

end Steps

lemma sound_step
  {s' : State} {e : Event} (hSound : Sound s) (hStep : step s e = some s') : Sound s' := by
  cases e with
  | tick elapsed =>
    cases hStep
    exact hSound.tick elapsed
  | arrive =>
    rw [step] at hStep
    split at hStep
    next =>
      cases hStep
      exact hSound
    next q hQuery =>
      cases hStep
      exact hSound.arrive q
  | look =>
    rw [step] at hStep
    split at hStep
    next =>
      cases hStep
      exact hSound.look
    next => cases hStep
  | acquire =>
    rw [step] at hStep
    split at hStep
    next =>
      cases hStep
      exact hSound.tryAcquire
    next => cases hStep
  | answer _ resp =>
    rw [step] at hStep
    split at hStep
    next =>
      cases hStep
      exact hSound.answer resp
    next => cases hStep
  | insert =>
    rw [step] at hStep
    split at hStep
    next hTask =>
      cases hStep
      exact hSound.insert hTask
    next => cases hStep
  | send task =>
    rw [step] at hStep
    split at hStep
    next resp readAt hTask =>
      cases hStep
      exact hSound.send (.inr ⟨resp, readAt, rfl, hSound.tasks hTask, rfl⟩)
    next q resp hTask =>
      cases hStep
      have hSent : Sound (s.send task q resp none) := hSound.send (.inl (hSound.tasks hTask))
      exact { hSent with }
    next => cases hStep

/-
  In every interleaving, a reply carries what the server that was asked gave to the query, or what
  it gave less than a minute earlier to the same question, under the id of the query.
-/
theorem replies_are_sound
    (hRun : Reaches step Always init s) :
    ∀ r ∈ s.replies, Justified s.exchanges r :=
  (hRun.invariant sound_init fun hSound _ hStep => sound_step hSound hStep).replies

def asking (id : UInt8) : Inbound where
  packet := List.replicate 20 0 ++ [48, 57, 0, 53, 0, 20, 0, 0] ++
    [id, 7, 1, 0, 0, 1, 0, 0, 0, 0, 0, 0]
  ihl := 20
  srcIp := ⟨10, 0, 0, 2⟩
  dstIp := ⟨1, 1, 1, 1⟩

/- The second query is answered from the cache. -/
theorem second_query_is_answered_soundly : ∃ s : State, s.replies.map (·.datagram.payload) =
  [[5, 7, 42], [6, 7, 42]] ∧ ∀ r ∈ s.replies, Justified s.exchanges r := by
  rcases exists_reaches step Always init (fun s =>
    decide (s.replies.map (·.datagram.payload) = [[5, 7, 42], [6, 7, 42]]))
    [.arrive (asking 5), .look 0, .acquire 0, .tick 80,
      .answer 0 (some [5, 7, 42]), .insert 0, .send 0,
      .arrive (asking 6), .tick 59999, .look 1, .send 1]
    (taken_always _ _ _) (by decide +kernel) with
    ⟨s, hRun, hEnd⟩
  exact ⟨s, of_decide_eq_true hEnd, replies_are_sound hRun⟩

end Kourosh.Tun2socks.DnsCache
