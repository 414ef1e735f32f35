import Kourosh.Socks.Connect

/-
  What the client and the destination of a CONNECT request get to see.

  The client should get one reply and then the relayed bytes, the destination all of the client's
  bytes.

  Main declarations
    * `Faithful` : one reply, and the whole stream for the destination
    * `RepliesTwice` : a request that is proxied behind a sniff step
    * `RelaysOver` : the connection a request is relayed over
    * `CutShort` : the end of the download comes before the end of the upload

  Correctness is proven by:
    * `faithful_handleConnect_iff`
-/

-- Limits

namespace Kourosh.Socks

open Routing Client
open List

section Limits

variable {α : Type} {limit : Option Nat} {list : List α}

lemma upTo_of_not_lt (hAll : ¬ (upTo limit list).length < list.length) :
  upTo limit list = list := by
  cases limit with
  | none => rfl
  | some =>
    simp only [upTo, Option.elim, length_take] at hAll
    exact take_of_length_le (by omega)

lemma upTo_of_le (hFits : ∀ n ∈ limit, list.length ≤ n) : upTo limit list = list := by
  cases limit with
  | none => rfl
  | some n => exact take_of_length_le (hFits n rfl)

lemma upTo_append_of_le {n : Nat} (more : List α) (hLimit : limit = some n)
  (hReached : n ≤ list.length) : upTo limit (list ++ more) = upTo limit list := by
  rw [hLimit]
  exact take_append_of_le_length hReached

lemma getElem?_upTo {i : Nat} (hLimit : ∀ n ∈ limit, i < n) : (upTo limit list)[i]? = list[i]? := by
  cases limit with
  | none => rfl
  | some n => exact getElem?_take_of_lt (hLimit n rfl)

end Limits

-- The Stream Onwards

namespace Channel

lemma taken_append (channel : Channel) (front rest : Bytes) :
  channel.taken (channel.taken front ++ rest) = channel.taken (front ++ rest) := by
  unfold taken
  cases channel.takes with
  | none => rfl
  | some =>
    simp only [upTo, Option.elim, take_append, take_take, min_self, length_take]
    congr 2
    omega

lemma taken_of_length_lt {channel : Channel} {written : Bytes} (more : Bytes)
  (hCut : (channel.taken written).length < written.length) :
  channel.taken (written ++ more) = channel.taken written := by
  unfold taken at hCut ⊢
  cases hLimit : channel.takes with
  | none => simp [hLimit, upTo] at hCut
  | some =>
    apply upTo_append_of_le more rfl
    simp only [hLimit, upTo, Option.elim, length_take] at hCut
    omega

end Channel

lemma relayUp_of_taken {channel : Channel}
  {handed : Bytes} (hTaken : channel.taken handed = handed) (reads : List Chunk) :
  relayUp channel handed reads = channel.taken (handed ++ (reads.map Subtype.val).flatten) := by
  induction reads generalizing handed with
  | nil => simp [relayUp, hTaken]
  | cons chunk reads ih =>
    have hStream : handed ++ ((chunk :: reads).map Subtype.val).flatten =
      handed ++ chunk.val ++ (reads.map Subtype.val).flatten := by simp
    rw [hStream, relayUp]
    split
    next hCut => exact (Channel.taken_of_length_lt _ hCut).symm
    next hAll => exact ih (upTo_of_not_lt hAll)

lemma relayUp_eq (channel : Channel) (front : Bytes) (reads : List Chunk) : relayUp channel
  (channel.taken front) reads = channel.taken (front ++ (reads.map Subtype.val).flatten) := by
  have hTaken : channel.taken (channel.taken front) = channel.taken front := by
    simpa using channel.taken_append front []
  rw [relayUp_of_taken hTaken, channel.taken_append]

/- The upload gets to its end before the download does. -/
def Channel.Outlasts (channel : Channel) (front rest : Bytes) : Prop :=
  ∀ n ∈ channel.lasts, (channel.taken (front ++ rest)).length ≤ front.length + n

lemma untilAbort_eq_iff (channel : Channel) (front rest : Bytes) :
    channel.untilAbort front (channel.taken (front ++ rest)) = channel.taken (front ++ rest) ↔
      channel.Outlasts front rest := by
  unfold Channel.untilAbort Channel.Outlasts
  cases channel.lasts with
  | none => simp [upTo]
  | some n => simp [upTo, take_eq_self_iff]

-- The Stream Back

namespace Client

def Within (client : Client) : Prop := ∀ n ∈ client.writes, client.received.length ≤ n

def offered (client : Client) (outputs : List Output) : List Output :=
  upTo client.writes (client.received ++ outputs)

variable {client client' : Client} {output : Output}

lemma offered_nil (hWithin : client.Within) : client.offered [] = client.received := by
  rw [offered, append_nil]
  exact upTo_of_le hWithin

lemma offered_of_write_none (outputs : List Output) (hWithin : client.Within)
  (hWrite : client.write output = none) : client.offered outputs = client.received := by
  unfold write at hWrite
  split at hWrite
  · cases hWrite
  next hBroken =>
    cases hLimit : client.writes with
    | none => simp [hLimit] at hBroken
    | some n =>
      have hReached : n ≤ client.received.length := by simpa [hLimit] using hBroken
      rw [offered, upTo_append_of_le outputs hLimit hReached]
      exact upTo_of_le hWithin

lemma offered_of_write (outputs : List Output) (hWrite : client.write output = some client') :
  client'.offered outputs = client.offered (output :: outputs) := by
  rw [(eq_of_write hWrite).1]
  simp [offered]

lemma within_of_write (hWrite : client.write output = some client') : client'.Within := by
  rcases eq_of_write hWrite with ⟨rfl, hOpen⟩
  intro n hLimit
  have hLess := hOpen n hLimit
  simp only [length_append, length_singleton]
  omega

lemma unread_of_write (hWrite : client.write output = some client') :
  client'.unread = client.unread := by
  rw [(eq_of_write hWrite).1]
  rfl

lemma received_tryWrite (hWithin : client.Within) (output : Output) :
  (client.tryWrite output).received = client.offered [output] := by
  unfold tryWrite
  cases hWrite : client.write output with
  | none => exact (offered_of_write_none _ hWithin hWrite).symm
  | some =>
    rw [← offered_of_write [] hWrite, offered_nil (within_of_write hWrite)]
    rfl

end Client

variable {client client' : Client} {code : UInt8} {received : List Output}
variable {env : Environment} {rules : RuleSet} {target : Target}
variable {sniffed : Sniffed} {output : Output}

lemma received_relayDown (hWithin : client.Within) (incoming : List Bytes) :
  (relayDown client incoming).received = client.offered (incoming.map Output.relayed) := by
  induction incoming generalizing client with
  | nil => exact (offered_nil hWithin).symm
  | cons chunk _ ih =>
    rw [relayDown, map_cons]
    cases hWrite : client.write (.relayed chunk) with
    | none => exact (offered_of_write_none _ hWithin hWrite).symm
    | some =>
      rw [← offered_of_write _ hWrite]
      exact ih (within_of_write hWrite)

-- Relayed Connections

def OnlyRelayed (client : Client) (received : List Output) : Prop :=
  ∃ data : List Bytes, received = client.offered (data.map Output.relayed)

def OneReply (client : Client) (received : List Output) : Prop :=
  ∃ (code : UInt8) (data : List Bytes),
    received = client.offered (reply code :: data.map Output.relayed)

def HandsOver (stream : Bytes) (outcome : Outcome) : Prop :=
  ∀ relay ∈ outcome.relay, relay.handed = relay.channel.taken stream

lemma handsOver_ended (stream : Bytes) (client : Client) (result : Except AetherError Unit) :
  HandsOver stream (.ended client result) := nofun

lemma handsOver_relay_iff (client : Client) (channel : Channel) (front : Bytes) :
    HandsOver (front ++ client.unread) (relay client channel front) ↔
      channel.Outlasts front client.unread := by
  rw [← untilAbort_eq_iff, HandsOver, relay]
  simp only [Option.mem_def, Option.some.injEq, forall_eq', relayUp_eq]
  rfl

lemma oneReply_of_write (hWrite : client.write (reply code) = some client')
  (hRest : OnlyRelayed client' received) : OneReply client received := by
  rcases hRest with ⟨data, hReceived⟩
  refine ⟨code, data, ?_⟩
  rw [hReceived, offered_of_write _ hWrite]

section

variable (hWithin : client.Within)

include hWithin

lemma oneReply_of_write_none
  (hWrite : client.write (reply code) = none) : OneReply client client.received :=
  ⟨code, [], (offered_of_write_none _ hWithin hWrite).symm⟩

lemma oneReply_tryWrite (code : UInt8) : OneReply client (client.tryWrite (reply code)).received :=
  ⟨code, [], received_tryWrite hWithin _⟩

lemma onlyRelayed_relay (channel : Channel)
  (front : Bytes) : OnlyRelayed client (relay client channel front).client.received :=
  ⟨channel.incoming, received_relayDown hWithin _⟩

end

lemma handsOver_handleDirect_iff
    (env : Environment)
    (client : Client)
    (target : Target)
    (port : UInt16)
    (head : Bytes)
    (replied : Bool) :
    HandsOver (head ++ client.unread) (handleDirect env client target port head replied) ↔
      ∀ channel,
        env.connect target port = some channel →
        (replied = true ∨ (client.write (reply repOk)).isSome) →
        channel.Outlasts head client.unread := by
  have hReply : replyBound unspecified = reply repOk := rfl
  unfold handleDirect
  rw [hReply]
  cases hConnect : env.connect target port with
  | none => exact iff_of_true (handsOver_ended _ _ _) nofun
  | some channel =>
    simp only [Option.some.injEq, forall_eq']
    cases replied with
    | true => simpa using handsOver_relay_iff client channel head
    | false =>
      cases hWrite : client.write (reply repOk) with
      | none => exact iff_of_true (handsOver_ended _ _ _) (by simp)
      | some client' =>
        have hRelay := handsOver_relay_iff client' channel head
        rw [unread_of_write hWrite] at hRelay
        simpa using hRelay

section

variable (hWithin : client.Within) (env : Environment) (target : Target) (port : UInt16)
  (head : Bytes)

include hWithin

lemma onlyRelayed_handleDirect :
  OnlyRelayed client (handleDirect env client target port head true).client.received := by
  unfold handleDirect
  split
  · exact ⟨[], (offered_nil hWithin).symm⟩
  · exact onlyRelayed_relay hWithin _ _

lemma oneReply_handleDirect :
  OneReply client (handleDirect env client target port head false).client.received := by
  unfold handleDirect
  split
  · exact oneReply_tryWrite hWithin repGeneral
  next channel hConnect =>
    rw [if_neg Bool.false_ne_true]
    split
    next hWrite => exact oneReply_of_write_none hWithin hWrite
    next client' hWrite =>
      exact oneReply_of_write hWrite
        (onlyRelayed_relay (within_of_write hWrite) channel head)

end

/- A proxied client takes the reply and what the gateway has sent already. -/
def Client.TakesAnswer (client : Client) (leftover : Bytes) : Prop :=
  ∃ client', client.write (reply repOk) = some client' ∧
    (leftover = [] ∨ (client'.write (.relayed leftover)).isSome)

lemma handsOver_handleProxy_iff
    (env : Environment)
    (client : Client)
    (opened : Except AetherError (Channel × Bytes)) :
    HandsOver client.unread (handleProxy env client opened) ↔
      ∀ channel leftover,
        opened = .ok (channel, leftover) →
        client.TakesAnswer leftover →
        channel.Outlasts [] client.unread := by
  have hReply : replyBound unspecified = reply repOk := rfl
  unfold handleProxy
  rw [hReply]
  cases opened with
  | error e => exact iff_of_true (handsOver_ended _ _ _) nofun
  | ok found =>
    rcases found with ⟨channel, leftover⟩
    simp only [Except.ok.injEq, Prod.mk.injEq]
    have hSame : (∀ channel' leftover', channel = channel' ∧ leftover = leftover' →
        client.TakesAnswer leftover' → channel'.Outlasts [] client.unread) ↔
        (client.TakesAnswer leftover → channel.Outlasts [] client.unread) :=
      ⟨fun h => h channel leftover ⟨rfl, rfl⟩, fun h _ _ hEq => hEq.1 ▸ hEq.2 ▸ h⟩
    rw [hSame, TakesAnswer]
    cases hFirst : client.write (reply repOk) with
    | none => exact iff_of_true (handsOver_ended _ _ _) (by simp)
    | some client₁ =>
      have hRelay := handsOver_relay_iff client₁ channel []
      rw [unread_of_write hFirst, nil_append] at hRelay
      by_cases hNone : leftover = []
      · simpa [hNone] using hRelay
      · cases hSecond : client₁.write (.relayed leftover) with
        | none =>
          simp only [List.isEmpty_iff, hNone, if_false, hSecond]
          exact iff_of_true (handsOver_ended _ _ _) (by simp [hSecond])
        | some client₂ =>
          have hRelay₂ := handsOver_relay_iff client₂ channel []
          rw [unread_of_write hSecond, unread_of_write hFirst, nil_append] at hRelay₂
          simpa [hNone, hSecond] using hRelay₂

lemma oneReply_handleProxy
  (hWithin : client.Within) (env : Environment) (opened : Except AetherError (Channel × Bytes)) :
  OneReply client (handleProxy env client opened).client.received := by
  unfold handleProxy
  split
  · exact oneReply_tryWrite hWithin repGeneral
  next channel leftover =>
    split
    next hReply => exact oneReply_of_write_none hWithin hReply
    next client₁ hReply =>
      have hWithin₁ := within_of_write hReply
      refine oneReply_of_write hReply ?_
      split
      · exact onlyRelayed_relay hWithin₁ channel []
      · split
        · exact ⟨[], (offered_nil hWithin₁).symm⟩
        next client₂ hLeftover =>
          refine ⟨leftover :: channel.incoming, ?_⟩
          rw [map_cons, ← offered_of_write _ hLeftover]
          exact received_relayDown (within_of_write hLeftover) _

lemma relay_handleProxy_of_broken
  (env : Environment) (opened : Except AetherError (Channel × Bytes))
  (hBroken : client.write (replyBound unspecified) = none) :
  (handleProxy env client opened).relay = none := by
  unfold handleProxy
  split
  · rfl
  · rw [hBroken]
    rfl

-- The Sniff Step

lemma flatten_unreadChunk (bytes : Bytes)
  (reads : List Chunk) : ((unreadChunk bytes reads).map Subtype.val).flatten =
  bytes ++ (reads.map Subtype.val).flatten := by
  unfold unreadChunk
  split
  · rfl
  next hNil => rw [not_not.mp hNil, nil_append]

lemma readSniffHead_spec {head : Bytes}
  (hRead : readSniffHead env client = some (head, client')) : head ++ client'.unread =
  client.unread ∧ client'.received = client.received ∧ client'.writes = client.writes := by
  unfold readSniffHead at hRead
  split at hRead
  · cases hRead
    exact ⟨rfl, rfl, rfl⟩
  · unfold Client.read at hRead
    split at hRead
    · cases hRead
    next chunk reads hReads =>
      cases hRead
      refine ⟨?_, rfl, rfl⟩
      simp only [unread, flatten_unreadChunk, hReads, map_cons, flatten_cons]
      rw [← append_assoc, take_append_drop]

/- What the sniff step leaves behind when it goes on. -/
structure SniffedFrom (env : Environment) (client : Client) (sniffed : Sniffed) : Prop where
  read : (readSniffHead env client).isSome = true
  head : (readSniffHead env client).map Prod.fst = some sniffed.head
  listened : (client.write (reply repOk)).isSome = true
  named : sniffed.named = announced env client
  replied : sniffed.replied = true
  stream : sniffed.head ++ sniffed.client.unread = client.unread
  within : sniffed.client.Within
  received : sniffed.client.received = client.received ++ [reply repOk]
  writes : sniffed.client.writes = client.writes

lemma sniff_spec (env : Environment)
  (hWithin : client.Within) (hGate : (target.isIp && rules.hasDomainRules)) :
  (∃ outcome, sniff rules env client target = .error outcome ∧
  outcome.relay = none ∧ OneReply client outcome.client.received ∧
  (client.write (reply repOk) = none ∨ (readSniffHead env client).isSome = false)) ∨
  ∃ sniffed, sniff rules env client target = .ok sniffed ∧ SniffedFrom env client sniffed := by
  have hReply : replyBound unspecified = reply repOk := rfl
  rw [sniff, if_pos hGate, hReply]
  cases hWrite : client.write (reply repOk) with
  | none => exact .inl ⟨_, rfl, rfl, oneReply_of_write_none hWithin hWrite, .inl rfl⟩
  | some client₁ =>
    have hHead :
      (readSniffHead env client₁).map Prod.fst = (readSniffHead env client).map Prod.fst :=
      readSniffHead_of_write hWrite
    have hWithin₁ := within_of_write hWrite
    simp only
    cases hRead : readSniffHead env client₁ with
    | none =>
      have hNone : readSniffHead env client = none := by
        rw [hRead, Option.map_none] at hHead
        exact Option.map_eq_none_iff.mp hHead.symm
      refine .inl ⟨_, rfl, rfl, ?_, .inr ?_⟩
      swap
      · rw [hNone]
        rfl
      exact oneReply_of_write hWrite ⟨[], (offered_nil hWithin₁).symm⟩
    | some read =>
      rcases read with ⟨head, client₂⟩
      rcases readSniffHead_spec hRead with ⟨hStream, hReceived, hWrites⟩
      rw [hRead, Option.map_some] at hHead
      rcases Option.map_eq_some_iff.mp hHead.symm with ⟨first, hFirst, rfl⟩
      refine .inr ⟨_, rfl, ?_⟩
      constructor
      · rw [hFirst]
        rfl
      · rw [hFirst]
        rfl
      · rw [hWrite]
        rfl
      · rw [announced, hFirst]
        rfl
      · rfl
      · rw [hStream, unread_of_write hWrite]
      · intro n hLimit
        rw [hReceived]
        exact hWithin₁ n (hWrites ▸ hLimit)
      · rw [hReceived, (eq_of_write hWrite).1]
      · rw [hWrites, (eq_of_write hWrite).1]

section

variable (hFrom : SniffedFrom env client sniffed)

include hFrom

lemma SniffedFrom.offered (outputs : List Output) :
  sniffed.client.offered outputs = client.offered (reply repOk :: outputs) := by
  unfold Client.offered
  rw [hFrom.received, hFrom.writes]
  simp

lemma SniffedFrom.oneReply
  (hRest : OnlyRelayed sniffed.client received) : OneReply client received := by
  rcases hRest with ⟨data, hReceived⟩
  exact ⟨repOk, data, hReceived.trans (hFrom.offered _)⟩

lemma SniffedFrom.write_eq_none (hFresh : client.received = [])
  (hGone : ¬ ∀ n ∈ client.writes, 2 ≤ n) : sniffed.client.write output = none := by
  cases hWrite : sniffed.client.write output with
  | none => rfl
  | some =>
    have hOpen := (eq_of_write hWrite).2
    rw [hFrom.writes, hFrom.received, hFresh] at hOpen
    exact absurd hOpen hGone

end

-- Whole Requests

/-
  The client gets one reply before any relayed byte, and a relayed connection is handed the
  client's stream from its first byte.
-/
structure Faithful (client : Client) (outcome : Outcome) : Prop where
  oneReply : OneReply client outcome.client.received
  stream : HandsOver client.unread outcome

/-
  The sniff step has replied and the request is proxied, while the client still takes a second
  reply.
-/
structure RepliesTwice (lib : Libraries) (rules : RuleSet) (env : Environment)
  (client : Client) (target : Target) (port : UInt16) : Prop where
  gate : (target.isIp && rules.hasDomainRules) = true
  read : (readSniffHead env client).isSome = true
  proxied : routeNamed lib rules target (announced env client) port = .proxy
  listens : ∀ n ∈ client.writes, 2 ≤ n

/- The name the sniff step gives, if it runs. -/
def nameAfterSniff (rules : RuleSet)
  (env : Environment) (client : Client) (target : Target) : Option (List Char) :=
  if target.isIp && rules.hasDomainRules then announced env client else none

/- The bytes the sniff step has read, if it runs and the client has not ended. -/
def headAfterSniff (rules : RuleSet)
  (env : Environment) (client : Client) (target : Target) : Option Bytes :=
  if target.isIp && rules.hasDomainRules then (readSniffHead env client).map Prod.fst else some []

/-
  The connection a request is relayed over and what is written to it before the upload begins. A
  request that is proxied behind a sniff step is left out.
-/
inductive RelaysOver (lib : Libraries) (rules : RuleSet) (env : Environment) (gateway : Gateway)
  (client : Client) (target : Target) (port : UInt16) : Channel → Bytes → Prop
| direct (hHead : headAfterSniff rules env client target = some front)
  (hRoute : routeNamed lib rules target (nameAfterSniff rules env client target) port = .direct)
  (hConnect : env.connect target port = some channel)
  (hClient : (client.write (reply repOk)).isSome) :
  RelaysOver lib rules env gateway client target port channel front
| proxied (hGate : (target.isIp && rules.hasDomainRules) = false)
  (hRoute : routeNamed lib rules target none port = .proxy)
  (hOpen : (openProxied lib env gateway target port).1 = .ok (channel, leftover))
  (hClient : client.TakesAnswer leftover) :
  RelaysOver lib rules env gateway client target port channel []

/- The download ends, and aborts the upload, before the stream has been passed on. -/
def CutShort (lib : Libraries) (rules : RuleSet) (env : Environment) (gateway : Gateway)
  (client : Client) (target : Target) (port : UInt16) : Prop :=
  ∃ channel front,
    RelaysOver lib rules env gateway client target port channel front ∧
    ∃ n ∈ channel.lasts, front.length + n < (channel.taken client.unread).length

lemma not_cutShort_iff (lib : Libraries) (gateway : Gateway) (port : UInt16) :
    ¬ CutShort lib rules env gateway client target port ↔
      ∀ channel front,
        RelaysOver lib rules env gateway client target port channel front →
        ∀ n ∈ channel.lasts, (channel.taken client.unread).length ≤ front.length + n := by
  unfold CutShort
  push Not
  rfl

lemma faithful_of_no_gate
    (lib : Libraries)
    (env : Environment)
    (gateway : Gateway)
    (port : UInt16)
    (hWithin : client.Within)
    (hGate : (target.isIp && rules.hasDomainRules) = false) :
    Faithful client (handleConnect lib rules env gateway client target port).outcome ↔
      ¬ CutShort lib rules env gateway client target port := by
  have hSniff : sniff rules env client target = .ok ⟨client, [], none, false⟩ := by
    rw [sniff, hGate]
    rfl
  have hName : nameAfterSniff rules env client target = none := by simp [nameAfterSniff, hGate]
  have hHead : headAfterSniff rules env client target = some [] := by simp [headAfterSniff, hGate]
  rw [not_cutShort_iff, handleConnect, hSniff]
  simp only
  cases hRoute : routeNamed lib rules target none port with
  | block =>
    refine iff_of_true ⟨oneReply_tryWrite hWithin _, handsOver_ended _ _ _⟩ ?_
    intro channel front hOver
    cases hOver with
    | direct _ hOther => cases (hName ▸ hOther).symm.trans hRoute
    | proxied _ hOther => cases hOther.symm.trans hRoute
  | direct =>
    have hDirect := handsOver_handleDirect_iff env client target port [] false
    rw [nil_append] at hDirect
    constructor
    · intro hFaithful channel front hOver
      cases hOver with
      | direct hFront _ hConnect hClient =>
        cases hHead.symm.trans hFront
        exact hDirect.mp hFaithful.stream channel hConnect (.inr hClient)
      | proxied _ hOther => cases hOther.symm.trans hRoute
    · intro hLasts
      refine ⟨oneReply_handleDirect hWithin env target port [], hDirect.mpr ?_⟩
      rintro channel hConnect (hFalse | hClient)
      · cases hFalse
      · exact hLasts channel [] (.direct hHead (hName ▸ hRoute) hConnect hClient)
  | proxy =>
    have hProxy := handsOver_handleProxy_iff env client (openProxied lib env gateway target port).1
    constructor
    · intro hFaithful channel front hOver
      cases hOver with
      | direct _ hOther => cases (hName ▸ hOther).symm.trans hRoute
      | proxied _ _ hOpen hClient => exact hProxy.mp hFaithful.stream channel _ hOpen hClient
    · intro hLasts
      refine ⟨oneReply_handleProxy hWithin env _, hProxy.mpr ?_⟩
      intro channel leftover hOpen hClient
      exact hLasts channel [] (.proxied hGate hRoute hOpen hClient)

lemma not_oneReply_of_second {a b : UInt8} {outputs : List Output}
  (hFresh : client.received = []) (hListens : ∀ n ∈ client.writes, 2 ≤ n) :
  ¬ OneReply client (client.offered (reply a :: reply b :: outputs)) := by
  rintro ⟨code, data, hReceived⟩
  have hSecond := congrArg (·[1]?) hReceived
  simp only [offered, hFresh, nil_append, getElem?_upTo hListens,
    getElem?_cons_succ, getElem?_cons_zero, getElem?_map] at hSecond
  cases hFirst : data[0]? with
  | none | some =>
    rw [hFirst] at hSecond
    cases hSecond

lemma faithful_of_sniffed
    (lib : Libraries)
    (gateway : Gateway)
    (port : UInt16)
    (hFresh : client.received = [])
    (hGate : (target.isIp && rules.hasDomainRules))
    (hSniff : sniff rules env client target = .ok sniffed)
    (hFrom : SniffedFrom env client sniffed) :
    Faithful client (handleConnect lib rules env gateway client target port).outcome ↔
      ¬ (routeNamed lib rules target (announced env client) port = .proxy ∧
        ∀ n ∈ client.writes, 2 ≤ n) ∧
      ¬ CutShort lib rules env gateway client target port := by
  have hName : nameAfterSniff rules env client target = announced env client := by
    simp [nameAfterSniff, hGate]
  rw [not_cutShort_iff, handleConnect, hSniff]
  simp only [hFrom.named, hFrom.replied]
  -- behind a sniff step only a direct request is relayed over a connection
  have hOther : routeNamed lib rules target (announced env client) port ≠ .direct →
      ∀ channel front, RelaysOver lib rules env gateway client target port channel front →
      ∀ n ∈ channel.lasts, (channel.taken client.unread).length ≤ front.length + n := by
    intro hRoute channel front hOver
    cases hOver with
    | direct _ hDirect => exact absurd (hName ▸ hDirect) hRoute
    | proxied hPlain => cases hGate.symm.trans hPlain
  cases hAction : routeNamed lib rules target (announced env client) port with
  | block =>
    refine iff_of_true ⟨?_, handsOver_ended _ _ _⟩ ⟨?_, hOther (by rw [hAction]; decide)⟩
    · exact hFrom.oneReply ⟨[], (offered_nil hFrom.within).symm⟩
    · exact fun hTwice => absurd hTwice.1 (by decide)
  | direct =>
    have hDirect := handsOver_handleDirect_iff env sniffed.client target port sniffed.head true
    rw [hFrom.stream] at hDirect
    have hHead : headAfterSniff rules env client target = some sniffed.head := by
      simp only [headAfterSniff, hGate, if_true, hFrom.head]
    constructor
    · intro hFaithful
      refine ⟨fun hTwice => absurd hTwice.1 (by decide), fun channel front hOver => ?_⟩
      cases hOver with
      | direct hFront _ hConnect =>
        cases hHead.symm.trans hFront
        have hLasts := hDirect.mp hFaithful.stream channel hConnect (.inl rfl)
        rw [Channel.Outlasts, hFrom.stream] at hLasts
        exact hLasts
      | proxied hPlain => cases hGate.symm.trans hPlain
    · rintro ⟨-, hLasts⟩
      refine ⟨?_, hDirect.mpr fun channel hConnect _ => ?_⟩
      · exact hFrom.oneReply (onlyRelayed_handleDirect hFrom.within env target port sniffed.head)
      · rw [Channel.Outlasts, hFrom.stream]
        exact hLasts channel sniffed.head
          (.direct hHead (hName ▸ hAction) hConnect hFrom.listened)
  | proxy =>
    have hReplied : OneReply sniffed.client (handleProxy env sniffed.client
      (openProxied lib env gateway target port).1).client.received :=
      oneReply_handleProxy hFrom.within env _
    by_cases hListens : ∀ n ∈ client.writes, 2 ≤ n
    · refine iff_of_false ?_ fun hNot => hNot.1 ⟨rfl, hListens⟩
      intro hFaithful
      rcases hReplied with ⟨code, data, hReceived⟩
      have hOne := hFaithful.oneReply
      rw [hReceived, hFrom.offered] at hOne
      exact not_oneReply_of_second hFresh hListens hOne
    · -- the client is gone: the second reply fails
      have hBroken : sniffed.client.write (reply repOk) = none :=
        hFrom.write_eq_none hFresh hListens
      refine iff_of_true ⟨?_, ?_⟩
        ⟨fun hTwice => hListens hTwice.2, hOther (by rw [hAction]; decide)⟩
      · rcases hReplied with ⟨code, data, hReceived⟩
        rw [hReceived, Client.offered_of_write_none _ hFrom.within hBroken]
        exact hFrom.oneReply ⟨[], (Client.offered_nil hFrom.within).symm⟩
      · intro relay hRelay
        rw [relay_handleProxy_of_broken env _ hBroken] at hRelay
        cases hRelay

def Client.requesting (reads : List Chunk) (writes : Option Nat) : Client where
  reads := reads
  received := []
  writes := writes

lemma write_requesting {reads : List Chunk} {writes : Option Nat} (hListens : ∀ n ∈ writes, 2 ≤ n) :
  (requesting reads writes).write output = some ⟨reads, [output], writes⟩ := by
  have hOpen : writes.all (0 < ·) := by
    rw [Option.all_eq_true]
    intro n hLimit
    have hTwo := hListens n hLimit
    simp only [decide_eq_true_eq]
    omega
  exact if_pos hOpen

/-
  Stream fidelity: a request gives the client one reply and hands the client's stream to the
  destination, exactly if it is not proxied behind a sniff step and the end of the download does
  not cut the upload.
-/
theorem faithful_handleConnect_iff
    (lib : Libraries)
    (rules : RuleSet)
    (env : Environment)
    (gateway : Gateway)
    (reads : List Chunk)
    (writes : Option Nat)
    (target : Target)
    (port : UInt16) :
    Faithful (.requesting reads writes)
      (handleConnect lib rules env gateway (.requesting reads writes) target port).outcome ↔
    ¬ RepliesTwice lib rules env (.requesting reads writes) target port ∧
      ¬ CutShort lib rules env gateway (.requesting reads writes) target port := by
  have hWithin : (requesting reads writes).Within := fun n _ => Nat.zero_le n
  cases hGate : target.isIp && rules.hasDomainRules with
  | false =>
    rw [faithful_of_no_gate lib env gateway port hWithin hGate, iff_and_self]
    exact fun _ hTwice => absurd hTwice.gate (by simp [hGate])
  | true =>
    rcases sniff_spec
      env hWithin hGate with ⟨outcome, hSniff, hRelay, hOne, hEnd⟩ | ⟨sniffed, hSniff, hFrom⟩
    · refine iff_of_true ?_ ⟨fun hTwice => ?_, ?_⟩
      · rw [handleConnect, hSniff]
        refine ⟨hOne, fun relay hMem => ?_⟩
        rw [hRelay] at hMem
        cases hMem
      · rcases hEnd with hBroken | hNone
        · have hListens : ∀ n ∈ writes, 2 ≤ n := hTwice.listens
          rw [write_requesting hListens] at hBroken
          cases hBroken
        · exact absurd hTwice.read (by simp [hNone])
      · rintro ⟨channel, front, hOver, -⟩
        cases hOver with
        | proxied hPlain => cases hGate.symm.trans hPlain
        | direct hHead _ _ hClient =>
          rcases hEnd with hBroken | hNone
          · rw [hBroken] at hClient
            cases hClient
          · rw [headAfterSniff, if_pos hGate] at hHead
            rcases Option.map_eq_some_iff.mp hHead with ⟨found, hFound, -⟩
            rw [hFound] at hNone
            cases hNone
    · rw [faithful_of_sniffed lib gateway port rfl hGate hSniff hFrom]
      exact and_congr_left fun _ =>
        not_congr ⟨fun h => ⟨hGate, hFrom.read, h.1, h.2⟩, fun h => ⟨h.proxied, h.listens⟩⟩

def directExample : RuleSet where
  block := []
  direct := [.domainSuffix "example.org".toList]

def firstRead : Chunk := ⟨ascii "hello", by decide⟩

/-
  A client by address that sends five bytes: the destination gets none of them, although it takes
  all it is given.
-/
theorem sniffed_head_dropped :
    ¬ ∀ (lib : Libraries) (rules : RuleSet) (env : Environment) (gateway : Gateway)
      (reads : List Chunk) (writes : Option Nat) (target : Target) (port : UInt16),
      Faithful (.requesting reads writes)
        (handleConnect lib rules env gateway (.requesting reads writes) target port).outcome := by
  intro hAll
  have hFaithful := hAll asciiLibraries
    directExample openNetwork ⟨none, true⟩ [firstRead] none (.ip (.v4 ⟨192, 0, 2, 1⟩)) 8080
  have hRelay : (handleConnect asciiLibraries directExample openNetwork ⟨none, true⟩
      (.requesting [firstRead] none) (.ip (.v4 ⟨192, 0, 2, 1⟩)) 8080).outcome.relay =
      some ⟨⟨none, none, []⟩, []⟩ := by
    decide +kernel
  have hStream := hFaithful.stream _ hRelay
  exact absurd hStream (by decide +kernel)

end Kourosh.Socks
