import Kourosh.Routing.Sniff

/-
  A SOCKS CONNECT request, from the request to the relay.

  The client is what successive reads of its socket return and how many writes to it succeed. The
  end of the download aborts the upload, wherever it has got to.

  Main declarations
    * `Client`, `Channel` : the two sockets of a relay
    * `Environment` : what the network does
    * `relay` : both directions of an opened connection
    * `handleConnect` : a request with its route and its replies
-/

-- Sockets

namespace Kourosh.Socks

open Routing

def upTo {α : Type} (limit : Option Nat) (list : List α) : List α := limit.elim list list.take

abbrev Chunk := { bytes : Bytes // bytes ≠ [] }

inductive Output where
  | reply (message : Bytes)
  | relayed (chunk : Bytes)

/-
  The client's socket: the reads to come, what was written to it, and the number of writes it
  accepts before it breaks.
-/
structure Client where
  reads : List Chunk
  received : List Output
  writes : Option Nat

namespace Client

def unread (client : Client) : Bytes := (client.reads.map Subtype.val).flatten

def write (client : Client) (output : Output) : Option Client :=
  if client.writes.all (client.received.length < ·) then
    some { client with received := client.received ++ [output] }
  else none

lemma eq_of_write
  {client client' : Client} {output : Output} (hWrite : client.write output = some client') :
  client' = { client with received := client.received ++ [output] } ∧
  ∀ n ∈ client.writes, client.received.length < n := by
  unfold write at hWrite
  split at hWrite
  next hOpen =>
    cases hWrite
    exact ⟨rfl, by simpa [Option.all_eq_true] using hOpen⟩
  · cases hWrite

def tryWrite (client : Client) (output : Output) : Client := (client.write output).getD client

def unreadChunk (bytes : Bytes) (reads : List Chunk) : List Chunk :=
  if hRest : bytes ≠ [] then ⟨bytes, hRest⟩ :: reads else reads

def read (client : Client) (buffer : Nat) : Option (Bytes × Client) :=
  match client.reads with
  | [] => none
  | chunk :: reads =>
    some (chunk.val.take buffer, { client with reads := unreadChunk (chunk.val.drop buffer) reads })

end Client

/-
  An opened connection: how many bytes it takes before it breaks, how many bytes of the client the
  upload has passed on when the end of the download aborts it, if that comes first, and what it
  sends.
-/
structure Channel where
  takes : Option Nat
  lasts : Option Nat
  incoming : List Bytes
deriving DecidableEq

def Channel.taken (channel : Channel) (written : Bytes) : Bytes := upTo channel.takes written

/- What an upload has passed on at its end, behind the bytes that were written before it began. -/
def Channel.untilAbort (channel : Channel) (front handed : Bytes) : Bytes :=
  upTo (channel.lasts.map (front.length + ·)) handed

-- Replies

def ver : UInt8 := 0x05
def atypV4 : UInt8 := 0x01
def atypV6 : UInt8 := 0x04
def repOk : UInt8 := 0x00
def repGeneral : UInt8 := 0x01
def repNotAllowed : UInt8 := 0x02

def reply (code : UInt8) : Output := .reply [ver, code, 0x00, atypV4, 0, 0, 0, 0, 0, 0]

def octets : IpAddr → Bytes
| .v4 ip => [ip.a, ip.b, ip.c, ip.d]
| .v6 ip => (List.range 16).map fun i => UInt8.ofBitVec (ip.bits.extractLsb' (8 * (15 - i)) 8)

def atyp : IpAddr → UInt8
| .v4 _ => atypV4
| .v6 _ => atypV6

def replyBound (bound : SocketAddr) : Output :=
  .reply ([ver, repOk, 0x00, atyp bound.ip] ++ octets bound.ip ++ u16ToBe bound.port)

def unspecified : SocketAddr where
  ip := .v4 ⟨0, 0, 0, 0⟩
  port := 0

-- Environment

inductive Target where
  | ip (ip : IpAddr)
  | domain (name : List Char)

namespace Target

def isIp : Target → Bool
| .ip _ => true
| .domain _ => false

/- `host_of`. -/
def host : Target → Host
| .ip addr => .ip addr
| .domain name => .domain name

end Target

structure Libraries where
  toLowercase : List Char → List Char
  showIp : IpAddr → List Char
  showAddr : SocketAddr → List Char
  parseIp : List Char → Option IpAddr

/- `GATEWAY_PROXY` and `GATEWAY_HEALTHY`. -/
structure Gateway where
  proxy : Option SocketAddr
  healthy : Bool

inductive Answer where
  | chunk (bytes : Bytes)
  | late

structure GatewayLink where
  takes : Option Nat
  lasts : Option Nat
  answers : List Answer

structure Environment where
  -- the client sends nothing within the sniff window
  stalled : Bool
  -- the error of a write to a broken client socket
  writeError : AetherError
  -- nothing if the time is up
  openGateway : SocketAddr → Option (Except AetherError GatewayLink)
  sendConnect : List Char → Except AetherError Unit
  dnsResolve : List Char → Except AetherError IpAddr
  openTcp : SocketAddr → Except AetherError Channel
  -- nothing if the connection fails or the time is up
  connect : Target → UInt16 → Option Channel

-- The Gateway

def gatewayHeadLimit : Nat := 8192

def uaRegister : List Char := "WARP for Android".toList

def gatewayProxy (gateway : Gateway) : Option SocketAddr :=
  if gateway.healthy then gateway.proxy else none

def shouldUseGateway (port : UInt16) : Bool := port == 80 || port == 443

def showPort (port : UInt16) : List Char := (toString port.toNat).toList

def buildProxyConnect (target : List Char) (port : UInt16) : List Char :=
  let authority :=
    if target.contains ':' && target.head? != some '[' then
      '[' :: target ++ "]:".toList ++ showPort port
    else target ++ ":".toList ++ showPort port
  "CONNECT ".toList ++ authority ++ " HTTP/1.1\r\nHost: ".toList ++ authority ++
    "\r\nUser-Agent: ".toList ++ uaRegister ++
    "\r\n\r\n".toList

def findHeadEnd (buffer : Bytes) : Option Nat :=
  ((List.range (buffer.length + 1 - 4)).find? fun pos =>
    (buffer.drop pos).take 4 == [13, 10, 13, 10]).map (· + 4)

/- `String::from_utf8_lossy`. -/
def lossyText (bytes : Bytes) : List Char := (utf8Decode (utf8Lossy bytes)).getD []

def beforeCrlf : List Char → Option (List Char)
| [] => none
| c :: rest =>
  if "\r\n".toList.isPrefixOf (c :: rest) then some []
  else (beforeCrlf rest).map (c :: ·)

def proxyConnectSucceeded (head : Bytes) : Option Bool := do
  let line ← beforeCrlf (lossyText head)
  let word ← (Text.splitWhitespace line)[1]?
  let status ← Text.parseU16 word
  return 200 ≤ status && status < 300

def statusLine (head : Bytes) : List Char :=
  let text := lossyText head
  if text.isEmpty then "no status".toList
  else Text.trim (text.takeWhile (· ≠ '\n'))

variable (lib : Libraries)

def gatewayError (proxy : SocketAddr) (what : String) : AetherError :=
  .other (String.ofList ("gateway ".toList ++ lib.showAddr proxy ++ what.toList))

def readGatewayHead (lib : Libraries) (proxy : SocketAddr) (authority : List Char)
  (port : UInt16) : Bytes → List Answer → Except AetherError (Bytes × List Answer)
| _, [] => .error (gatewayError lib proxy " closed the connection")
| _, .late :: _ => .error (gatewayError lib proxy " did not answer in time")
| head, .chunk bytes :: rest =>
  let head := head ++ bytes
  match findHeadEnd head with
  | some pos =>
    match proxyConnectSucceeded head with
    | none => .error (gatewayError lib proxy " sent a malformed response")
    | some false =>
      .error (.other (String.ofList ("gateway refused ".toList ++ authority ++
        ":".toList ++ showPort port ++ " (".toList ++
        statusLine (head.take pos) ++ ")".toList)))
    | some true => .ok (head.drop pos, rest)
  | none =>
    if head.length > gatewayHeadLimit then
      .error (gatewayError lib proxy " sent an oversized response head")
    else readGatewayHead lib proxy authority port head rest

def Answer.bytes : Answer → Option Bytes
| .chunk bytes => some bytes
| .late => none

def openThroughGateway (env : Environment) (proxy : SocketAddr)
  (authority : List Char) (port : UInt16) : Except AetherError (Channel × Bytes) :=
  match env.openGateway proxy with
  | none => .error (gatewayError lib proxy " did not accept a connection")
  | some opened => do
    let link ← opened
    env.sendConnect (buildProxyConnect authority port)
    let (leftover, rest) ← readGatewayHead lib proxy authority port [] link.answers
    return ({ takes := link.takes, lasts := link.lasts, incoming := rest.filterMap Answer.bytes },
      leftover)

-- Relays

/- The upload, up to the first send that fails. -/
def relayUp (channel : Channel) : Bytes → List Chunk → Bytes
| handed, [] => handed
| handed, chunk :: reads =>
  let written := handed ++ chunk.val
  if (channel.taken written).length < written.length then
    -- the send fails
    channel.taken written
  else relayUp channel written reads

/- The download, up to the first write that fails. -/
def relayDown (client : Client) : List Bytes → Client
| [] => client
| chunk :: incoming =>
  match client.write (.relayed chunk) with
  | none => client
  | some client => relayDown client incoming

structure Relay where
  channel : Channel
  handed : Bytes
deriving DecidableEq

structure Outcome where
  client : Client
  relay : Option Relay
  result : Except AetherError Unit

def Outcome.ended (client : Client) (result : Except AetherError Unit) : Outcome where
  client := client
  relay := none
  result := result

/- The front is written first; `up.abort()` ends the upload with the download. -/
def relay (client : Client) (channel : Channel) (front : Bytes) : Outcome where
  client := relayDown client channel.incoming
  relay := some
    { channel
      handed := channel.untilAbort front (relayUp channel (channel.taken front) client.reads) }
  result := .ok ()

def handleDirect (env : Environment) (client : Client) (target : Target)
  (port : UInt16) (head : Bytes) (replied : Bool) : Outcome :=
  match env.connect target port with
  | none =>
    .ended (if replied then client else client.tryWrite (reply repGeneral)) (.ok ())
  | some channel =>
    if replied then relay client channel head
    else
      match client.write (replyBound unspecified) with
      | none => .ended client (.error env.writeError)
      | some client => relay client channel head

/- The end of `handle_connect`, for an opened channel. -/
def handleProxy (env : Environment)
  (client : Client) (opened : Except AetherError (Channel × Bytes)) : Outcome :=
  match opened with
  | .error e => .ended (client.tryWrite (reply repGeneral)) (.error e)
  | .ok (channel, leftover) =>
    match client.write (replyBound unspecified) with
    | none => .ended client (.error env.writeError)
    | some client =>
      if leftover.isEmpty then relay client channel []
      else
        match client.write (.relayed leftover) with
        | none => .ended client (.ok ())
        | some client => relay client channel []

-- Requests

def routeNamed (rules : RuleSet) (target : Target)
  (named : Option (List Char)) (port : UInt16) : Routing.Action :=
  match named with
  | some name => rules.decide lib.toLowercase (.domain name) port
  | none => rules.decide lib.toLowercase target.host port

def readSniffHead (env : Environment) (client : Client) : Option (Bytes × Client) :=
  if env.stalled then some ([], client) else client.read peekBudget

lemma readSniffHead_of_write {env : Environment}
  {client client' : Client} {output : Output} (hWrite : client.write output = some client') :
  (readSniffHead env client').map Prod.fst = (readSniffHead env client).map Prod.fst := by
  rw [(Client.eq_of_write hWrite).1]
  unfold readSniffHead Client.read
  simp only
  split
  · rfl
  · split <;> rfl

def announced (env : Environment) (client : Client) : Option (List Char) :=
  (readSniffHead env client).bind fun sniffed =>
    if sniffed.1.isEmpty then none else hostname sniffed.1

structure Sniffed where
  client : Client
  head : Bytes
  named : Option (List Char)
  replied : Bool

def sniff (rules : RuleSet) (env : Environment) (client : Client)
  (target : Target) : Except Outcome Sniffed :=
  if target.isIp && rules.hasDomainRules then
    match client.write (replyBound unspecified) with
    | none => .error (.ended client (.error env.writeError))
    | some client =>
      match readSniffHead env client with
      | none => .error (.ended client (.ok ()))
      | some (head, client) =>
        .ok { client, head, named := if head.isEmpty then none else hostname head, replied := true }
  else .ok { client, head := [], named := none, replied := false }

def resolve (env : Environment) : Target → Except AetherError IpAddr
| .ip addr => .ok addr
| .domain name =>
  match lib.parseIp name with
  | some addr => .ok addr
  | none => env.dnsResolve name

def openResolved (env : Environment) (target : Target) (port : UInt16) :
  Except AetherError (Channel × Bytes) := do
  let ip ← resolve lib env target
  let channel ← env.openTcp { ip, port }
  return (channel, [])

def openProxied (env : Environment) (gateway : Gateway)
  (target : Target) (port : UInt16) : Except AetherError (Channel × Bytes) × Gateway :=
  match (gatewayProxy gateway).filter fun _ => shouldUseGateway port with
  | none => (openResolved lib env target port, gateway)
  | some proxy =>
    let authority :=
      match target with
      | .domain name => name
      | .ip addr => lib.showIp addr
    match openThroughGateway lib env proxy authority port with
    | .ok opened => (.ok opened, gateway)
    | .error _ =>
      -- `retire_gateway`
      (openResolved lib env target port, { gateway with healthy := false })

structure Session where
  action : Option Routing.Action
  outcome : Outcome
  gateway : Gateway

def handleConnect (rules : RuleSet) (env : Environment)
  (gateway : Gateway) (client : Client) (target : Target) (port : UInt16) : Session :=
  match sniff rules env client target with
  | .error outcome => { action := none, outcome, gateway }
  | .ok sniffed =>
    let action := routeNamed lib rules target sniffed.named port
    match action with
    | .block =>
      { action := some action
        outcome :=
          .ended (if sniffed.replied then sniffed.client
            else sniffed.client.tryWrite (reply repNotAllowed))
            (.ok ())
        gateway }
    | .direct =>
      { action := some action
        outcome := handleDirect env sniffed.client target port sniffed.head sniffed.replied
        gateway }
    | .proxy =>
      let opened := openProxied lib env gateway target port
      { action := some action, outcome := handleProxy env sniffed.client opened.1,
        gateway := opened.2 }

-- A Concrete Environment

def asciiLibraries : Libraries where
  toLowercase := fun name => name.map Char.toLower
  showIp := fun _ => []
  showAddr := fun _ => []
  parseIp := fun _ => none

def openNetwork : Environment where
  stalled := false
  writeError := .io "broken pipe"
  openGateway := fun _ => none
  sendConnect := fun _ => .ok ()
  dnsResolve := fun _ => .ok unspecified.ip
  openTcp := fun _ => .ok ⟨none, none, []⟩
  connect := fun _ _ => some ⟨none, none, []⟩

end Kourosh.Socks
