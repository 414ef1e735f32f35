import Kourosh.SmartDns.Endpoint
import Kourosh.Socks.Head

/-
  The HTTP proxy, from the first head to the relay.

  One head is read off the client's connection.
-/

-- Request Lines

namespace Kourosh.Socks

open Routing

structure HttpRequestLine where
  method : List Char
  authority : List Char
  port : UInt16
  rewritten : Option (List Char)
deriving DecidableEq

def parseBracketed (rest : List Char) (defaultPort : UInt16) : Option (List Char × UInt16) :=
  if rest.contains ']' then
    let host := rest.takeWhile (· ≠ ']')
    if host.isEmpty then none
    else
      match Text.stripFront ":" ((rest.dropWhile (· ≠ ']')).drop 1) with
      | some value => (Text.parseU16 value).map fun port => (host, port)
      | none => some (host, defaultPort)
  else none

def parseAuthority (raw : List Char) (defaultPort : UInt16) : Option (List Char × UInt16) :=
  let raw := Text.trim raw
  if raw.isEmpty then none
  else
    match Text.stripFront "[" raw with
    | some rest => parseBracketed rest defaultPort
    | none =>
      match SmartDns.rsplitOnceColon raw with
      | some (host, port) =>
        if host.contains ':' then some (raw, defaultPort)
        else if host.isEmpty then none
        else (Text.parseU16 port).map fun port => (host, port)
      | none => some (raw, defaultPort)

def parseAbsolute (method uri version : List Char) : Option HttpRequestLine :=
  let path := uri.dropWhile (· ≠ '/')
  (parseAuthority (uri.takeWhile (· ≠ '/')) 80).map fun authority =>
    { method
      authority := authority.1
      port := authority.2
      rewritten := some (method ++ " ".toList ++ (if path.isEmpty then "/".toList else path) ++
        " ".toList ++ version ++ "\r\n".toList) }

def parseRequestLine (line : List Char) : Option HttpRequestLine :=
  match Text.splitWhitespace line with
  | method :: target :: more =>
    let version := more.headD "HTTP/1.1".toList
    if sameIgnoringCase method "CONNECT".toList then
      (parseAuthority target 443).map fun authority =>
        { method
          authority := authority.1
          port := authority.2
          rewritten := none }
    else
      ((Text.stripFront "http://" target).or (Text.stripFront "HTTP://" target)).bind
        fun uri => parseAbsolute method uri version
  | _ => none

-- Texts

/- `text.lines().next()`, of a text with a line end. -/
def firstLine (text : Bytes) : Bytes :=
  let line := text.takeWhile (· ≠ 10)
  if line.getLast? = some 13 then line.dropLast else line

/- `text.split_once("\r\n")`, the part behind. -/
def behindCrlf : Bytes → Bytes
| [] => []
| [_] => []
| a :: b :: rest => if a = 13 ∧ b = 10 then rest else behindCrlf (b :: rest)

/- `request.authority.parse::<IpAddr>()`. -/
def httpTarget (lib : Libraries) (authority : List Char) : Target :=
  match lib.parseIp authority with
  | some ip => .ip ip
  | none => .domain authority

-- The Request

/-
  What goes onwards: the destination of the first request, the head as it is written there, the
  bytes of the client that stand for it, and the bytes that were handed over.
-/
structure Upstream where
  authority : List Char
  port : UInt16
  front : Bytes
  skipped : Nat
  handed : Bytes

structure HttpOutcome where
  outcome : Outcome
  upstream : Option Upstream
  gateway : Gateway

def HttpOutcome.ended (client : Client) (result : Except AetherError Unit)
  (gateway : Gateway) : HttpOutcome where
  outcome := .ended client result
  upstream := none
  gateway := gateway

def HttpOutcome.refused (client : Client)
  (message : String) (result : Except AetherError Unit) (gateway : Gateway) : HttpOutcome :=
  .ended (client.tryWrite (.reply (ascii message))) result gateway

def badRequest : String := "HTTP/1.1 400 Bad Request\r\nConnection: close\r\n\r\n"

def forbidden : String := "HTTP/1.1 403 Forbidden\r\nConnection: close\r\n\r\n"

def badGateway : String := "HTTP/1.1 502 Bad Gateway\r\nConnection: close\r\n\r\n"

def established : String := "HTTP/1.1 200 Connection established\r\n\r\n"

structure ReadHead where
  head : Bytes
  pipelined : Bytes
  request : HttpRequestLine

def ReadHead.preamble (read : ReadHead) : Bytes :=
  match read.request.rewritten with
  | some line => utf8Bytes line ++ behindCrlf (utf8Lossy read.head)
  | none => []

def ReadHead.upstream (read : ReadHead) (handed : Bytes) : Upstream where
  authority := read.request.authority
  port := read.request.port
  front := read.preamble
  skipped := read.head.length
  handed := handed

/- The relay, behind the bytes that were read already. -/
def relayHttp (broken : Except AetherError Unit) (read : ReadHead)
  (client : Client) (channel : Channel) (gateway : Gateway) : HttpOutcome :=
  let front := read.preamble ++ read.pipelined
  let relayed := relay client channel front
  { outcome :=
      if (channel.taken front).length < front.length then
        { relayed with client := client, result := broken }
      else relayed
    upstream := relayed.relay.map fun r => read.upstream r.handed
    gateway }

def answerHttp (env : Environment) (broken : Except AetherError Unit) (read : ReadHead)
  (client : Client) (channel : Channel) (leftover : Bytes) (gateway : Gateway) : HttpOutcome :=
  match if read.request.rewritten.isNone then
    client.write (.reply (ascii established))
    else some client with
  | none => .ended client (.error env.writeError) gateway
  | some client =>
    match if leftover.isEmpty then some client
      else client.write (.relayed leftover) with
    | none => .ended client (.ok ()) gateway
    | some client => relayHttp broken read client channel gateway

def relayHttpDirect (env : Environment)
  (read : ReadHead) (target : Target) (client : Client) (gateway : Gateway) : HttpOutcome :=
  match env.connect target read.request.port with
  | none => .refused client badGateway (.error env.writeError) gateway
  | some channel => answerHttp env (.error env.writeError) read client channel [] gateway

def routeHttp (lib : Libraries) (rules : RuleSet) (env : Environment)
  (gateway : Gateway) (read : ReadHead) (client : Client) : HttpOutcome :=
  let target := httpTarget lib read.request.authority
  match rules.decide lib.toLowercase target.host read.request.port with
  | .block => .refused client forbidden (.ok ()) gateway
  | .direct => relayHttpDirect env read target client gateway
  | .proxy =>
    let opened := openProxied lib env gateway target read.request.port
    match opened.1 with
    | .error e => .refused client badGateway (.error e) opened.2
    | .ok (channel, leftover) => answerHttp env (.ok ()) read client channel leftover opened.2

def lineOf (head : Bytes) : List Char := (utf8Decode (firstLine (utf8Lossy head))).getD []

def handleHttpClient (lib : Libraries)
  (rules : RuleSet) (env : Environment) (gateway : Gateway) (client : Client) : HttpOutcome :=
  match readHead client with
  | .error e => .ended client (.error e) gateway
  | .ok (head, pipelined, client) =>
    match parseRequestLine (lineOf head) with
    | none =>
      .refused client badRequest (.error (.other ("unsupported http proxy request: " ++
        String.ofList (lineOf head)))) gateway
    | some request => routeHttp lib rules env gateway { head, pipelined, request } client

-- What Goes Onwards

variable {broken : Except AetherError Unit} {read : ReadHead} {client : Client}
variable {channel : Channel} {env : Environment} {gateway : Gateway}
variable {u : Upstream} {lib : Libraries} {rules : RuleSet}

/- What is handed over behind a head that was read: the whole stream, up to the abort. -/
def ReadHead.handed (read : ReadHead) (channel : Channel) (client : Client) : Bytes :=
  channel.untilAbort (read.preamble ++ read.pipelined)
    (channel.taken (read.preamble ++ (read.pipelined ++ client.unread)))

lemma upstream_relayHttp :
    (relayHttp broken read client channel gateway).upstream =
      some (read.upstream (read.handed channel client)) := by
  simp only [relayHttp, relay, Option.map_some, ReadHead.handed]
  rw [relayUp_eq, List.append_assoc]
  rfl

lemma relay_relayHttp :
    (relayHttp broken read client channel gateway).outcome.relay =
      some ⟨channel, read.handed channel client⟩ := by
  have hHanded := @relayUp_eq channel (read.preamble ++ read.pipelined) client.reads
  rw [List.append_assoc] at hHanded
  unfold relayHttp relay
  simp only [hHanded]
  split <;> rfl

/- An answer ends the connection, or relays what the client has still to send. -/
lemma answerHttp_spec
    (leftover : Bytes) :
    (answerHttp env broken read client channel leftover gateway).upstream = none ∧
      (answerHttp env broken read client channel leftover gateway).outcome.relay = none ∨
    ∃ passed : Client,
      passed.unread = client.unread ∧
      answerHttp env broken read client channel leftover gateway =
        relayHttp broken read passed channel gateway := by
  unfold answerHttp
  split
  · exact .inl ⟨rfl, rfl⟩
  next answered hAnswered =>
    have hUnread : answered.unread = client.unread := by
      split at hAnswered
      · exact Client.unread_of_write hAnswered
      · cases hAnswered
        rfl
    split
    · exact .inl ⟨rfl, rfl⟩
    next passed hPassed =>
      refine .inr ⟨passed, Eq.trans ?_ hUnread, rfl⟩
      split at hPassed
      · cases hPassed
        rfl
      · exact Client.unread_of_write hPassed

lemma upstream_answerHttp {leftover : Bytes}
  (hUp : u ∈ (answerHttp env broken read client channel leftover gateway).upstream) :
  u = read.upstream (read.handed channel client) := by
  rcases answerHttp_spec leftover with ⟨hNone, -⟩ | ⟨passed, hUnread, hEq⟩
  · rw [hNone] at hUp
    cases hUp
  · rw [hEq, upstream_relayHttp, ReadHead.handed, hUnread] at hUp
    exact (Option.mem_some_iff.mp hUp).symm

lemma relay_answerHttp {leftover : Bytes} {r : Relay}
  (hRelay : r ∈ (answerHttp env broken read client channel leftover gateway).outcome.relay) :
  r = ⟨channel, read.handed channel client⟩ := by
  rcases answerHttp_spec leftover with ⟨-, hNone⟩ | ⟨passed, hUnread, hEq⟩
  · rw [hNone] at hRelay
    cases hRelay
  · rw [hEq, relay_relayHttp, ReadHead.handed, hUnread] at hRelay
    exact (Option.mem_some_iff.mp hRelay).symm

lemma upstream_routeHttp (hUp : u ∈ (routeHttp lib rules env gateway read client).upstream) :
  rules.decide lib.toLowercase (httpTarget lib read.request.authority).host read.request.port ≠
  .block ∧ ∃ channel : Channel, u = read.upstream (read.handed channel client) := by
  unfold routeHttp at hUp
  simp only at hUp
  split at hUp
  · cases hUp
  next hDirect =>
    refine ⟨by rw [hDirect]; decide, ?_⟩
    unfold relayHttpDirect at hUp
    split at hUp
    · cases hUp
    · exact ⟨_, upstream_answerHttp hUp⟩
  next hProxy =>
    refine ⟨by rw [hProxy]; decide, ?_⟩
    split at hUp
    · cases hUp
    · exact ⟨_, upstream_answerHttp hUp⟩

/-
  Something goes onwards only behind a head that was read and a route that is not blocked; then it
  is the head in front of everything else the client sends.
-/
lemma upstream_handleHttpClient
  (hUp : u ∈ (handleHttpClient lib rules env gateway client).upstream) :
  ∃ (read : ReadHead) (client' : Client) (channel : Channel),
  HeadOf client.unread client.writes read.head read.pipelined client' ∧
  parseRequestLine (lineOf read.head) = some read.request ∧ rules.decide lib.toLowercase
  (httpTarget lib read.request.authority).host read.request.port ≠ .block ∧
  u = read.upstream (read.handed channel client') := by
  unfold handleHttpClient at hUp
  split at hUp
  · cases hUp
  next head pipelined client' hRead =>
    split at hUp
    · cases hUp
    next request hParse =>
      rcases upstream_routeHttp hUp with ⟨hAllowed, channel, hSent⟩
      exact ⟨{ head, pipelined, request }, client', channel,
        readHead_spec hRead, hParse, hAllowed, hSent⟩

def unruled : RuleSet where
  block := []
  direct := []

def noGateway : Gateway where
  proxy := none
  healthy := false

lemma openProxied_openNetwork (lib : Libraries) (target : Target) (port : UInt16) :
  openProxied lib openNetwork noGateway target port = (.ok (⟨none, none, []⟩, []), noGateway) := by
  have hResolve : ∃ ip, resolve lib openNetwork target = .ok ip := by
    cases target with
    | ip addr => exact ⟨addr, rfl⟩
    | domain name =>
      simp only [resolve]
      cases lib.parseIp name with
      | some addr => exact ⟨addr, rfl⟩
      | none => exact ⟨_, rfl⟩
  rcases hResolve with ⟨ip, hIp⟩
  have hResolved : openResolved lib openNetwork target port = .ok (⟨none, none, []⟩, []) := by
    rw [openResolved, hIp]
    rfl
  unfold openProxied
  rw [hResolved]
  rfl

lemma exists_upstream_answerHttp (hWrites : read.request.rewritten = none → client.writes = none) :
    ∃ u r,
      (answerHttp env broken read client channel [] gateway).upstream = some u ∧
      (answerHttp env broken read client channel [] gateway).outcome.relay = some r := by
  have hAnswered : ∃ answered, (if read.request.rewritten.isNone then
        client.write (.reply (ascii established))
      else some client) = some answered := by
    split
    next hConnect =>
      rw [Client.write, hWrites (Option.isNone_iff_eq_none.mp hConnect)]
      exact ⟨_, rfl⟩
    · exact ⟨client, rfl⟩
  rcases hAnswered with ⟨answered, hAnswered⟩
  rw [answerHttp, hAnswered]
  exact ⟨_, _, upstream_relayHttp, relay_relayHttp⟩

/- In an open network a request without rules is served. -/
lemma exists_upstream
    (lib : Libraries)
    {head pipelined : Bytes}
    {client' : Client}
    {request : HttpRequestLine}
    (hRead : readHead client = .ok (head, pipelined, client'))
    (hParse : parseRequestLine (lineOf head) = some request)
    (hWrites : request.rewritten = none → client'.writes = none) :
    ReadHead.upstream { head, pipelined, request }
      (ReadHead.preamble { head, pipelined, request } ++ (pipelined ++ client'.unread)) ∈
      (handleHttpClient lib unruled openNetwork noGateway client).upstream ∧
    ⟨⟨none, none, []⟩,
      ReadHead.preamble { head, pipelined, request } ++ (pipelined ++ client'.unread)⟩ ∈
      (handleHttpClient lib unruled openNetwork noGateway client).outcome.relay := by
  have hRoute : handleHttpClient lib unruled openNetwork noGateway client =
    answerHttp openNetwork (.ok ()) { head, pipelined, request } client' ⟨none, none, []⟩ []
      noGateway := by
    rw [handleHttpClient, hRead]
    simp only
    rw [hParse]
    simp only
    simp only [routeHttp, openProxied_openNetwork]
    rfl
  have hAnswer :
    (ReadHead.mk head pipelined request).request.rewritten = none → client'.writes = none := hWrites
  rw [hRoute]
  rcases exists_upstream_answerHttp hAnswer with ⟨u, r, hUp, hRelay⟩
  rw [hUp, upstream_answerHttp hUp, hRelay, relay_answerHttp hRelay]
  exact ⟨rfl, rfl⟩

end Kourosh.Socks
