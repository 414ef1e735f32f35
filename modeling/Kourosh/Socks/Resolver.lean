import Kourosh.SmartDns.Question

/-
  The lookup of a name over the tunnel.

  Every server of the list is asked in turn.

  Main declarations
    * `buildDnsQuery` : the query for a name
    * `parseDnsA` : the address in a reply
    * `dnsResolve` : the queries that are sent and the result
    * `FirstMatch` : the datagram a lookup ends with

  Correctness is proven by:
    * `lookup_is_consistent_iff`
-/

-- Messages

namespace Kourosh.Socks.Resolver

open Dns
open List

def qtypeA : UInt16 := 1

def buildDnsQuery (id : UInt16) (name : Bytes) (qtype : UInt16) : Bytes :=
  u16ToBe id ++ [0x01, 0x00] ++ [0x00, 0x01] ++ [0x00, 0x00, 0x00, 0x00, 0x00, 0x00] ++
    ((Kourosh.labels name).flatMap fun label => UInt8.ofNat label.length :: label) ++
    [0x00] ++ u16ToBe qtype ++ [0x00, 0x01]

def skipName (buf : Bytes) (pos : Nat) : Option Nat :=
  match hByte : buf[pos]? with
  | none => none
  | some len =>
    if len &&& 0xc0 = 0xc0 then some (pos + 2)
    else if len = 0 then some (pos + 1)
    else skipName buf (pos + (1 + len.toNat))
termination_by buf.length - pos
decreasing_by
  have hLt := (List.getElem?_eq_some_iff.mp hByte).1
  omega

def skipQuestions (resp : Bytes) : Nat → Nat → Option Nat
| 0, pos => some pos
| count + 1, pos => do
  let pos ← skipName resp pos
  skipQuestions resp count (pos + 4)

def answers (resp : Bytes) : Nat → Nat → Option IpAddr
| 0, _ => none
| count + 1, pos => do
  let pos ← skipName resp pos
  if pos + 10 > resp.length then none
  else
    let rtype := u16At resp pos
    let rdlen := (u16At resp (pos + 8)).toNat
    let pos := pos + 10
    if pos + rdlen > resp.length then none
    else if rtype = 1 ∧ rdlen = 4 then
      some (.v4 ⟨byteAt resp pos, byteAt resp (pos + 1), byteAt resp (pos + 2),
        byteAt resp (pos + 3)⟩)
    else answers resp count (pos + rdlen)

def parseDnsA (resp : Bytes) : Option IpAddr :=
  if resp.length < 12 then none
  else do
    let pos ← skipQuestions resp (u16At resp 4).toNat 12
    answers resp (u16At resp 6).toNat pos

-- The Exchange

/-
  One server and what happens while it is asked: the id that is drawn, the result of sending, the
  datagrams that come in before the deadline, and if the channel is closed by then.
-/
structure Round where
  server : SocketAddr
  id : UInt16
  sendError : Option AetherError
  received : List (SocketAddr × Bytes)
  closed : Bool

/-
  A lookup: the queries sent, the result, and for an address the server that was asked for it and
  the sender of the datagram it is read off.
-/
structure Exchange where
  sent : List (SocketAddr × Bytes)
  outcome : Except AetherError IpAddr
  read : Option (SocketAddr × SocketAddr)

structure Texts where
  addr : SocketAddr → String
  name : Bytes → String

/- The first matching datagram decides; an address comes with its sender, which is not looked at. -/
def receive (texts : Texts) (name : Bytes) (id : UInt16) (closed : Bool) :
  List (SocketAddr × Bytes) → Option (Except AetherError (SocketAddr × IpAddr))
| [] => if closed then some (.error (.other "dns channel closed")) else none
| (source, resp) :: rest =>
  if !responseMatches resp id name qtypeA then receive texts name id closed rest
  else
    match parseDnsA resp with
    | some ip => some (.ok (source, ip))
    | none => some (.error (.other ("no A record for " ++ texts.name name)))

def dnsExchange (texts : Texts) (name : Bytes) : AetherError → List Round → Exchange
| last, [] => ⟨[], .error last, none⟩
| _, r :: rounds =>
  match r.sendError with
  | some error => dnsExchange texts name error rounds
  | none =>
    let query := (r.server, buildDnsQuery r.id name qtypeA)
    match receive texts name r.id r.closed r.received with
    | some (.ok (source, ip)) => ⟨[query], .ok ip, some (r.server, source)⟩
    | some (.error error) => ⟨[query], .error error, none⟩
    | none =>
      let next := dnsExchange texts name
        (.other ("dns timeout from " ++ texts.addr r.server)) rounds
      ⟨query :: next.sent, next.outcome, next.read⟩

def dnsResolve (texts : Texts) (name : Bytes) (openError : Option AetherError)
  (rounds : List Round) : Exchange :=
  match openError with
  | some error => ⟨[], .error error, none⟩
  | none => dnsExchange texts name (.other "dns timeout") rounds

-- Questions

/- One question, of labels of 1 to 63 bytes and one terminator. -/
def WellFormedQuery (query : Bytes) : Prop :=
  ∃ names, (∀ label ∈ names, 0 < label.length ∧ label.length ≤ 63) ∧
    SmartDns.Asks query names qtypeA

/- A reply with the id and the question of a query, whatever follows. -/
def Echoes (msg query : Bytes) : Prop :=
  IsReply msg (u16At query 0) ∧ ∃ rest, msg.drop 12 = query.drop 12 ++ rest

variable {texts : Texts} {name : Bytes} {rounds : List Round} {id : UInt16}

lemma asks_buildDnsQuery :
    SmartDns.Asks (buildDnsQuery id name qtypeA) (Kourosh.labels name) qtypeA := by
  refine ⟨by simp [buildDnsQuery, u16ToBe, u16At, byteAt, u16FromBe], ?_⟩
  simp [buildDnsQuery, u16ToBe, wireName]

lemma u16At_buildDnsQuery : u16At (buildDnsQuery id name qtypeA) 0 = id := u16FromBe_toBe id

lemma responseMatches_of_echoes
    {msg : Bytes}
    (hName : Hostname name)
    (hEchoes : Echoes msg (buildDnsQuery id name qtypeA)) :
    responseMatches msg id name qtypeA := by
  rcases hEchoes with ⟨hReply, rest, hDrop⟩
  rw [u16At_buildDnsQuery] at hReply
  have hSame : SameName (Kourosh.labels name) (Kourosh.labels name) :=
    List.forall₂_same.mpr fun label _ => by simp [eqIgnoreAsciiCase]
  rw [responseMatches_iff hName]
  refine ⟨hReply, Kourosh.labels name, [0x00, 0x01], rest, hSame, rfl, ?_⟩
  rw [hDrop, asks_buildDnsQuery.2]
  simp

/- Labels that are written like well-formed ones are the same: an empty one would end the name. -/
lemma labels_of_wireName_eq
    {written names : List Bytes}
    {tail : Bytes}
    (hWritten : ∀ label ∈ written, label.length < 256)
    (hNames : ∀ label ∈ names, 0 < label.length ∧ label.length ≤ 63)
    (hSame : wireName written ++ 0 :: tail = wireName names ++ 0 :: tail) :
    ∀ label ∈ written, 0 < label.length ∧ label.length ≤ 63 := by
  induction written generalizing names with
  | nil => exact nofun
  | cons first written ih =>
    rw [SmartDns.wireName_cons] at hSame
    cases names with
    | nil =>
      have hLength := congrArg List.length hSame
      simp [wireName] at hLength
      omega
    | cons name names =>
      rw [SmartDns.wireName_cons, cons_append, cons_append] at hSame
      rcases List.cons.inj hSame with ⟨hByte, hRest⟩
      have hFirst := hWritten first mem_cons_self
      have hName := hNames name mem_cons_self
      have hLength : first.length = name.length := by
        have hNat := congrArg UInt8.toNat hByte
        rw [UInt8.toNat_ofNat', UInt8.toNat_ofNat'] at hNat
        omega
      rw [append_assoc, append_assoc] at hRest
      rcases append_inj hRest hLength with ⟨rfl, hTail⟩
      intro label hMem
      rcases mem_cons.mp hMem with rfl | hMem
      · exact hName
      · exact ih (fun l hIn => hWritten l (mem_cons_of_mem _ hIn))
          (fun l hIn => hNames l (mem_cons_of_mem _ hIn)) hTail label hMem

/- The query for a name is well-formed exactly if the name is a host name. -/
lemma wellFormedQuery_iff
    (hShort : name.length ≤ 255) :
    WellFormedQuery (buildDnsQuery id name qtypeA) ↔ Hostname name := by
  constructor
  · rintro ⟨names, hNames, -, hDrop⟩
    rw [asks_buildDnsQuery.2] at hDrop
    refine labels_of_wireName_eq (fun label hMem => ?_) hNames hDrop
    have hLabel := (Text.of_mem_splitOn hMem).2
    omega
  · exact fun hName => ⟨Kourosh.labels name, hName, asks_buildDnsQuery⟩

-- Answers

/-
  The datagram a lookup ends with: the first match of the first round that has one, behind rounds
  that were not sent or ran into their deadline.
-/
inductive FirstMatch (name : Bytes) : List Round → Round → SocketAddr × Bytes → Prop
| here (hSent : r.sendError = none)
  (hFind : r.received.find? (fun d => responseMatches d.2 r.id name qtypeA) = some d) :
  FirstMatch name (r :: later) r d
| unsent (hSent : r.sendError = some error) (hLater : FirstMatch name later other d) :
  FirstMatch name (r :: later) other d
| silent (hSent : r.sendError = none) (hOpen : r.closed = false)
  (hNone : r.received.find? (fun d => responseMatches d.2 r.id name qtypeA) = none)
  (hLater : FirstMatch name later other d) :
  FirstMatch name (r :: later) other d

lemma receive_eq
    (texts : Texts)
    (name : Bytes)
    (id : UInt16)
    (closed : Bool)
    (received : List (SocketAddr × Bytes)) :
    receive texts name id closed received =
      match received.find? fun d => responseMatches d.2 id name qtypeA with
      | some (source, resp) =>
        match parseDnsA resp with
        | some ip => some (.ok (source, ip))
        | none => some (.error (.other ("no A record for " ++ texts.name name)))
      | none => if closed then some (.error (.other "dns channel closed")) else none := by
  induction received with
  | nil => rfl
  | cons d received ih =>
    rcases d with ⟨source, resp⟩
    rw [receive, find?_cons]
    cases responseMatches resp id name qtypeA with
    | true => rfl
    | false => exact ih

/- Each query is sent to the server of a round whose send succeeds, and the first one always. -/
lemma sent_dnsExchange
    (last : AetherError) :
    (∀ q ∈ (dnsExchange texts name last rounds).sent,
      ∃ r ∈ rounds, q = (r.server, buildDnsQuery r.id name qtypeA)) ∧
    ((dnsExchange texts name last rounds).sent = [] ↔ ∀ r ∈ rounds, r.sendError ≠ none) := by
  fun_induction dnsExchange texts name last rounds with
  | case1 => simp
  | case2 _ r rounds error hSend ih =>
    refine ⟨fun q hMem => ?_, ih.2.trans (by simp [hSend])⟩
    rcases ih.1 q hMem with ⟨other, hOther, hQuery⟩
    exact ⟨other, mem_cons_of_mem r hOther, hQuery⟩
  | case3 _ r _ hSend | case4 _ r _ hSend =>
    exact ⟨fun q hMem => ⟨r, mem_cons_self, mem_singleton.mp hMem⟩, by simp [hSend]⟩
  | case5 _ r _ hSend _ _ _ ih =>
    refine ⟨fun q hMem => ?_, by simp [hSend]⟩
    rcases mem_cons.mp hMem with rfl | hMem
    · exact ⟨r, mem_cons_self, rfl⟩
    · rcases ih.1 q hMem with ⟨other, hOther, hQuery⟩
      exact ⟨other, mem_cons_of_mem r hOther, hQuery⟩

/- An address is returned exactly from the datagram a lookup ends with, if it has an A record. -/
lemma read_dnsExchange_iff
    (last : AetherError)
    (server source : SocketAddr)
    (ip : IpAddr) :
    ((dnsExchange texts name last rounds).outcome = .ok ip ∧
      (dnsExchange texts name last rounds).read = some (server, source)) ↔
    ∃ r resp,
      FirstMatch name rounds r (source, resp) ∧ r.server = server ∧ parseDnsA resp = some ip := by
  induction rounds generalizing last with
  | nil =>
    simp only [dnsExchange]
    constructor
    · rintro ⟨-, hRead⟩
      cases hRead
    · rintro ⟨_, _, hMatch, -⟩
      cases hMatch
  | cons r rounds ih =>
    rw [dnsExchange]
    cases hSend : r.sendError with
    | some error =>
      simp only [ih]
      constructor
      · rintro ⟨other, resp, hMatch, hRest⟩
        exact ⟨other, resp, .unsent hSend hMatch, hRest⟩
      · rintro ⟨other, resp, hMatch, hRest⟩
        cases hMatch with
        | here hSent | silent hSent => exact absurd (hSend.symm.trans hSent) (by simp)
        | unsent _ hLater => exact ⟨other, resp, hLater, hRest⟩
    | none =>
      simp only [receive_eq]
      cases hFind : r.received.find? fun d => responseMatches d.2 r.id name qtypeA with
      | some d =>
        rcases d with ⟨from', msg⟩
        -- the first match decides, so it is the only datagram of the right side
        have hOnly : ∀ other resp, FirstMatch name (r :: rounds) other (source, resp) ↔
            other = r ∧ source = from' ∧ resp = msg := by
          intro other resp
          constructor
          · intro hMatch
            cases hMatch with
            | here _ hHere =>
              cases hFind.symm.trans hHere
              exact ⟨rfl, rfl, rfl⟩
            | unsent hSent => exact absurd (hSend.symm.trans hSent) (by simp)
            | silent _ _ hNone => exact absurd (hFind.symm.trans hNone) (by simp)
          · rintro ⟨rfl, rfl, rfl⟩
            exact .here hSend hFind
        simp only [hOnly]
        cases hParse : parseDnsA msg with
        | none =>
          simp only [reduceCtorEq, false_and, false_iff]
          rintro ⟨_, _, ⟨-, -, rfl⟩, -, hSome⟩
          exact absurd (hParse.symm.trans hSome) (by simp)
        | some found =>
          simp only [Except.ok.injEq, Option.some.injEq, Prod.mk.injEq]
          constructor
          · rintro ⟨rfl, rfl, rfl⟩
            exact ⟨r, msg, ⟨rfl, rfl, rfl⟩, rfl, hParse⟩
          · rintro ⟨_, _, ⟨rfl, rfl, rfl⟩, rfl, hSome⟩
            exact ⟨Option.some.inj (hParse.symm.trans hSome), rfl, rfl⟩
      | none =>
        cases hClosed : r.closed with
        | true =>
          simp only [if_true, reduceCtorEq, false_and, false_iff]
          rintro ⟨_, _, hMatch, -⟩
          cases hMatch with
          | here _ hHere => exact absurd (hFind.symm.trans hHere) (by simp)
          | unsent hSent => exact absurd (hSend.symm.trans hSent) (by simp)
          | silent _ hOpen => exact absurd (hClosed.symm.trans hOpen) (by simp)
        | false =>
          simp only [Bool.false_eq_true, if_false, ih]
          constructor
          · rintro ⟨other, resp, hMatch, hRest⟩
            exact ⟨other, resp, .silent hSend hClosed hFind hMatch, hRest⟩
          · rintro ⟨other, resp, hMatch, hRest⟩
            cases hMatch with
            | here _ hHere => exact absurd (hFind.symm.trans hHere) (by simp)
            | unsent hSent => exact absurd (hSend.symm.trans hSent) (by simp)
            | silent _ _ _ hLater => exact ⟨other, resp, hLater, hRest⟩

/- An address always has a datagram it is read off. -/
lemma exists_read
    {ip : IpAddr}
    (last : AetherError)
    (hOk : (dnsExchange texts name last rounds).outcome = .ok ip) :
    ∃ p, (dnsExchange texts name last rounds).read = some p := by
  fun_induction dnsExchange texts name last rounds with
  | case1 | case4 => cases hOk
  | case2 _ _ _ _ _ ih => exact ih hOk
  | case3 => exact ⟨_, rfl⟩
  | case5 _ _ _ _ _ _ _ ih => exact ih hOk

/- Whatever is sent is a well-formed question whose echo is accepted as its answer. -/
def AsksProperly (name : Bytes) (e : Exchange) : Prop :=
  ∀ q ∈ e.sent,
    WellFormedQuery q.2 ∧
    ∀ msg, Echoes msg q.2 → responseMatches msg (u16At q.2 0) name qtypeA = true

/- An address that is returned is read off a datagram of the server that was asked. -/
def ReadsFromAsked (e : Exchange) : Prop :=
  ∀ ip, e.outcome = .ok ip → ∃ server, e.read = some (server, server)

/-
  For every name of at most 255 bytes, a lookup sends well-formed questions only, takes their echo
  for a reply and returns an address only from the server that was asked, exactly if the name is a
  host name or nothing can be sent, and a datagram with an address that the lookup ends with comes
  from the server of its round.
-/
theorem lookup_is_consistent_iff
    (texts : Texts)
    (hShort : name.length ≤ 255)
    (openError : Option AetherError)
    (rounds : List Round) :
    (AsksProperly name (dnsResolve texts name openError rounds) ∧
      ReadsFromAsked (dnsResolve texts name openError rounds)) ↔
    openError ≠ none ∨
      (Hostname name ∨ ∀ r ∈ rounds, r.sendError ≠ none) ∧
      ∀ r d, FirstMatch name rounds r d → (parseDnsA d.2).isSome → d.1 = r.server := by
  unfold AsksProperly ReadsFromAsked dnsResolve
  cases openError with
  | some error => simp
  | none =>
    simp only [not_true_eq_false, false_or, ne_eq]
    rcases @sent_dnsExchange texts name rounds (.other "dns timeout") with ⟨hEach, hNone⟩
    refine and_congr ?_ ?_
    · refine Iff.trans ?_ (or_congr_right hNone)
      constructor
      · intro hAll
        cases hSent : (dnsExchange texts name (.other "dns timeout") rounds).sent with
        | nil => exact .inr rfl
        | cons q =>
          have hMem := hSent ▸ mem_cons_self
          rcases hEach q hMem with ⟨r, -, rfl⟩
          exact .inl ((wellFormedQuery_iff hShort).mp (hAll _ hMem).1)
      · rintro (hName | hEmpty) q hMem
        · rcases hEach q hMem with ⟨r, -, rfl⟩
          refine ⟨(wellFormedQuery_iff hShort).mpr hName, fun msg hEchoes => ?_⟩
          rw [u16At_buildDnsQuery]
          exact responseMatches_of_echoes hName hEchoes
        · rw [hEmpty] at hMem
          cases hMem
    · constructor
      · rintro hFrom r ⟨source, resp⟩ hMatch hSome
        rcases Option.isSome_iff_exists.mp hSome with ⟨ip, hParse⟩
        rcases (read_dnsExchange_iff (.other "dns timeout") r.server source ip).mpr
          ⟨r, resp, hMatch, rfl, hParse⟩ with ⟨hOk, hRead⟩
        rcases hFrom ip hOk with ⟨server, hServer⟩
        cases hRead.symm.trans hServer
        rfl
      · intro hFrom ip hOk
        rcases exists_read _ hOk with ⟨⟨server, source⟩, hRead⟩
        rcases (read_dnsExchange_iff _ server source ip).mp ⟨hOk, hRead⟩ with
          ⟨r, resp, hMatch, rfl, hParse⟩
        have hSource := hFrom r (source, resp) hMatch (Option.isSome_iff_exists.mpr ⟨ip, hParse⟩)
        exact ⟨r.server, hSource ▸ hRead⟩

/- A server, and what is received while it is asked. -/
def oneRound (received : List (SocketAddr × Bytes)) : Round :=
  ⟨⟨.v4 ⟨1, 1, 1, 1⟩, 53⟩, 7, none, received, false⟩

/- A reply for `a` with the address 6.6.6.6. -/
def forgedReply : Bytes :=
  [0, 7, 0x81, 0x80, 0, 1, 0, 1, 0, 0, 0, 0, 1, 97, 0, 0, 1, 0, 1,
    0xc0, 12, 0, 1, 0, 1, 0, 0, 0, 0, 0, 4, 6, 6, 6, 6]

/- The first server is silent; the second one answers behind a datagram from elsewhere. -/
def twoRounds : List Round :=
  [oneRound [],
    oneRound [(⟨.v4 ⟨6, 6, 6, 6⟩, 53⟩, [0, 8]), (⟨.v4 ⟨1, 1, 1, 1⟩, 53⟩, forgedReply)]]

def noTexts : Texts := ⟨fun _ => "", fun _ => ""⟩

theorem second_server_answers :
    (dnsResolve noTexts [97] none twoRounds).sent.length = 2 ∧
    AsksProperly [97] (dnsResolve noTexts [97] none twoRounds) ∧
    ReadsFromAsked (dnsResolve noTexts [97] none twoRounds) := by
  have hMatches : responseMatches forgedReply 7 [97] qtypeA := by decide
  have hOther : responseMatches [0, 8] 7 [97] qtypeA = false := by decide
  refine ⟨by decide +kernel, (lookup_is_consistent_iff noTexts
    (by decide) none twoRounds).mpr (.inr ⟨.inl (by decide), ?_⟩)⟩
  intro r d hMatch _
  cases hMatch with
  | here _ hFind => simp [oneRound] at hFind
  | unsent hSent => cases hSent
  | silent _ _ _ hLater =>
    cases hLater with
    | here _ hFind =>
      simp only [oneRound, find?_cons, hOther, hMatches] at hFind
      cases hFind
      rfl
    | unsent hSent => cases hSent
    | silent _ _ _ hLater => cases hLater

/-
  The query for a name with a dot at its end has two terminators, and a datagram from elsewhere is
  an answer.
-/
theorem dotted_name_and_stranger :
    ¬ AsksProperly [97, 46] (dnsResolve noTexts [97, 46] none [oneRound []]) ∧
    ¬ ReadsFromAsked (dnsResolve noTexts [97] none
      [oneRound [(⟨.v4 ⟨6, 6, 6, 6⟩, 53⟩, forgedReply)]]) := by
  refine ⟨fun hAsks => ?_, fun hReads => ?_⟩
  · have hQuery := (hAsks _ mem_cons_self).1
    exact absurd ((wellFormedQuery_iff (by decide)).mp hQuery) (by decide)
  · have hParse : parseDnsA forgedReply = some (.v4 ⟨6, 6, 6, 6⟩) := by decide +kernel
    have hFind : [(⟨.v4 ⟨6, 6, 6, 6⟩, 53⟩, forgedReply)].find? (fun d : SocketAddr × Bytes =>
        responseMatches d.2 7 [97] qtypeA) = some (⟨.v4 ⟨6, 6, 6, 6⟩, 53⟩, forgedReply) := by
      decide
    rcases (@read_dnsExchange_iff noTexts _ _ (.other "dns timeout")
      ⟨.v4 ⟨1, 1, 1, 1⟩, 53⟩ ⟨.v4 ⟨6, 6, 6, 6⟩, 53⟩ (.v4 ⟨6, 6, 6, 6⟩)).mpr
      ⟨oneRound _, forgedReply, .here rfl hFind, rfl, hParse⟩ with ⟨hOk, hRead⟩
    rcases hReads _ hOk with ⟨server, hServer⟩
    cases hRead.symm.trans hServer

end Kourosh.Socks.Resolver
