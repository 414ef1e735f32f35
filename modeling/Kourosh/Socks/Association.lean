import Kourosh.Lib.Run
import Kourosh.Socks.Connect

/-
  A SOCKS UDP association.

  The relay socket takes datagrams from anyone who can reach its port.

  Correctness is proven by:
    * `confined_of_reaches`
-/

-- Sources

namespace Kourosh.Socks

open Routing
open List
open Option

/- A `SocketAddr` as the socket reports it. -/
inductive PeerAddr where
  | v4 (ip : Ipv4Addr) (port : UInt16)
  | v6 (ip : Ipv6Addr) (port : UInt16) (flowinfo scopeId : UInt32)
deriving DecidableEq

namespace PeerAddr

def ip : PeerAddr → IpAddr
| .v4 ip _ => .v4 ip
| .v6 ip _ _ _ => .v6 ip

def port : PeerAddr → UInt16
| .v4 _ port => port
| .v6 _ port _ _ => port

end PeerAddr

def normalizeIp : IpAddr → IpAddr
| .v6 ip =>
  match ip.toIpv4Mapped with
  | some mapped => .v4 mapped
  | none => .v6 ip
| other => other

def expectedUdpSource (controlPeer : PeerAddr) (requested : Target) : IpAddr :=
  match requested with
  | .ip ip =>
    if ip.isUnspecified then normalizeIp controlPeer.ip
    else normalizeIp ip
  | .domain _ => normalizeIp controlPeer.ip

def udpSourceAllowed (expected : IpAddr) (latched : Option PeerAddr) (source : PeerAddr) : Bool :=
  match latched with
  | some known => known = source
  | none => normalizeIp source.ip = normalizeIp expected

lemma normalizeIp_normalizeIp (ip : IpAddr) : normalizeIp (normalizeIp ip) = normalizeIp ip := by
  cases ip with
  | v4 => rfl
  | v6 ip =>
    cases hMapped : ip.toIpv4Mapped with
    | none | some => simp only [normalizeIp, hMapped]

lemma normalizeIp_expectedUdpSource (controlPeer : PeerAddr) (requested : Target) : normalizeIp
  (expectedUdpSource controlPeer requested) = expectedUdpSource controlPeer requested := by
  cases requested with
  | ip ip =>
    simp only [expectedUdpSource]
    split
    · exact normalizeIp_normalizeIp controlPeer.ip
    · exact normalizeIp_normalizeIp ip
  | domain => exact normalizeIp_normalizeIp controlPeer.ip

-- Datagrams

def atypDomain : UInt8 := 0x03

def parseUdpTarget (buf : Bytes) : Option (Target × Nat) :=
  if byteAt buf 3 = atypV4 then
    if buf.length < 4 + 4 then none
    else some (.ip (.v4 ⟨byteAt buf 4, byteAt buf 5, byteAt buf 6, byteAt buf 7⟩), 8)
  else if byteAt buf 3 = atypV6 then
    if buf.length < 4 + 16 then none
    else some (.ip (.v6 (.ofBytes ((buf.drop 4).take 16))), 20)
  else if byteAt buf 3 = atypDomain then
    if buf.length < 5 then none
    else
      let len := (byteAt buf 4).toNat
      if buf.length < 5 + len then none
      else some (.domain (lossyText ((buf.drop 5).take len)), 5 + len)
  else none

def parseUdpRequest (buf : Bytes) : Option (Target × UInt16 × Bytes) :=
  if buf.length < 4 ∨ byteAt buf 2 ≠ 0 then none
  else
    match parseUdpTarget buf with
    | none => none
    | some (target, pos) =>
      if buf.length < pos + 2 then none
      else some (target, u16At buf pos, buf.drop (pos + 2))

def buildUdpReply (src : SocketAddr) (data : Bytes) : Bytes :=
  [0x00, 0x00, 0x00, atyp src.ip] ++ octets src.ip ++ u16ToBe src.port ++ data

inductive Forward where
  | direct (dst : SocketAddr) (payload : Bytes)
  | proxy (dst : SocketAddr) (payload : Bytes)
deriving DecidableEq

structure Lookup where
  rules : RuleSet
  lookupHost : List Char → UInt16 → Option SocketAddr
  dnsResolve : List Char → Option IpAddr

def forward (lib : Libraries) (env : Lookup) (target : Target) (port : UInt16)
  (payload : Bytes) : Option Forward :=
  match env.rules.decide lib.toLowercase target.host port with
  | .block => none
  | .direct =>
    match target with
    | .ip ip => some (.direct ⟨ip, port⟩ payload)
    | .domain name => (env.lookupHost name port).map (.direct · payload)
  | .proxy =>
    match target with
    | .ip ip => some (.proxy ⟨ip, port⟩ payload)
    | .domain name => (env.dnsResolve name).map fun ip => .proxy ⟨ip, port⟩ payload

-- The Select Loop

/-
  The variables of the loop, and what it has done: the datagrams it accepted, what it forwarded of
  them, and the replies it sent, each with the client it was for.
-/
structure Association where
  expected : IpAddr
  client : Option PeerAddr
  running : Bool
  accepted : List (PeerAddr × Bytes)
  forwarded : List (PeerAddr × Forward)
  replies : List (PeerAddr × Bytes)
  -- for the log line only
  refused : UInt64

/- What the arms of the `select!` can return. -/
inductive RelayEvent where
  | datagram (source : PeerAddr) (data : Bytes) (env : Lookup)
  | relayError
  | stackReply (src : SocketAddr) (data : Bytes)
  | stackClosed
  | directReply (src : PeerAddr) (data : Bytes)
  | directError
  | control
  | controlEnd

namespace Association

def associate (controlPeer : PeerAddr) (requested : Target) : Association where
  expected := expectedUdpSource controlPeer requested
  client := none
  running := true
  accepted := []
  forwarded := []
  replies := []
  refused := 0

/- `break`. -/
def stop (a : Association) : Association := { a with running := false }

/- `refused += 1`, and a line in the log now and then. -/
def refuse (a : Association) : Association := { a with refused := a.refused + 1 }

def accept (a : Association)
  (lib : Libraries) (env : Lookup) (source : PeerAddr) (data : Bytes) : Association :=
  { a with
    client := some (a.client.getD source)
    accepted := a.accepted ++ [(source, data)]
    forwarded := a.forwarded ++ (((parseUdpRequest data).bind fun request =>
            forward lib env request.1 request.2.1 request.2.2).map
          fun out => (source, out)).toList }

/- `relay.send_to(&pkt, c)`, if there is a client. -/
def replyTo (a : Association) (src : SocketAddr) (data : Bytes) : Association :=
  { a with replies := a.replies ++ (a.client.map fun c => (c, buildUdpReply src data)).toList }

def udpBuffer : Nat := 65535

def turn (a : Association) (lib : Libraries) : RelayEvent → Association
| .datagram source data env =>
  if udpSourceAllowed a.expected a.client source then a.accept lib env source (data.take udpBuffer)
  else a.refuse
| .relayError => a.stop
| .stackReply src data => a.replyTo src data
| .stackClosed => a.stop
| .directReply src data => a.replyTo ⟨src.ip, src.port⟩ (data.take udpBuffer)
| .directError => a
| .control => a
| .controlEnd => a.stop

def step (lib : Libraries) (a : Association) (e : RelayEvent) : Option Association :=
  if a.running then some (a.turn lib e) else none

-- Confinement

structure Confined (expected : IpAddr) (a : Association) : Prop where
  expected_eq : a.expected = expected
  client_expected : ∀ c ∈ a.client, normalizeIp c.ip = expected
  accepted_from : ∀ d ∈ a.accepted, a.client = some d.1
  forwarded_from : ∀ f ∈ a.forwarded, a.client = some f.1
  replied_to : ∀ r ∈ a.replies, a.client = some r.1
  latched : a.accepted = [] → a.client = none

variable {lib : Libraries} {expected : IpAddr} {a a' : Association}

lemma confined_associate (controlPeer : PeerAddr) (requested : Target) :
  (associate controlPeer requested).Confined (expectedUdpSource controlPeer requested) where
  expected_eq := rfl
  client_expected := nofun
  accepted_from := nofun
  forwarded_from := nofun
  replied_to := nofun
  latched := fun _ => rfl

variable {source : PeerAddr}

lemma client_of_allowed (hAllowed : udpSourceAllowed a.expected a.client source) :
  a.client.getD source = source := by
  cases hClient : a.client with
  | none => rfl
  | some =>
    rw [hClient] at hAllowed
    exact of_decide_eq_true hAllowed

lemma ip_of_allowed (hConf : a.Confined expected) (hNormal : normalizeIp expected = expected)
  (hAllowed : udpSourceAllowed a.expected a.client source) :
  normalizeIp source.ip = expected := by
  cases hClient : a.client with
  | none =>
    rw [hClient, hConf.expected_eq] at hAllowed
    rw [← hNormal]
    exact of_decide_eq_true hAllowed
  | some known =>
    rw [hClient] at hAllowed
    have hSame : known = source := of_decide_eq_true hAllowed
    rw [← hSame]
    exact hConf.client_expected known hClient

lemma eq_source_of_allowed
  {other : PeerAddr} (hAllowed : udpSourceAllowed a.expected a.client source)
  (hClient : a.client = some other) : other = source := by
  have hSource := client_of_allowed hAllowed
  rw [hClient] at hSource
  exact hSource

section

variable (hConf : a.Confined expected)

include hConf

lemma Confined.accept (hNormal : normalizeIp expected = expected)
  (hAllowed : udpSourceAllowed a.expected a.client source)
  (env : Lookup) (data : Bytes) : (a.accept lib env source data).Confined expected := by
  have hClient : (a.accept lib env source data).client = some source :=
    congrArg some (client_of_allowed hAllowed)
  refine
    { expected_eq := hConf.expected_eq, client_expected := ?_, accepted_from := ?_,
      forwarded_from := ?_, replied_to := ?_, latched := ?_ }
  · intro c hMem
    rw [hClient] at hMem
    cases hMem
    exact ip_of_allowed hConf hNormal hAllowed
  · intro d hMem
    rw [hClient]
    rcases mem_append.mp hMem with hOld | hNew
    · have hFrom := hConf.accepted_from d hOld
      rw [eq_source_of_allowed hAllowed hFrom]
    · rw [mem_singleton.mp hNew]
  · intro f hMem
    rw [hClient]
    rcases mem_append.mp hMem with hOld | hNew
    · have hFrom := hConf.forwarded_from f hOld
      rw [eq_source_of_allowed hAllowed hFrom]
    · rcases map_eq_some_iff.mp (mem_toList.mp hNew) with ⟨out, _, rfl⟩
      rfl
  · intro r hMem
    rw [hClient]
    have hFrom := hConf.replied_to r hMem
    rw [eq_source_of_allowed hAllowed hFrom]
  · intro hNil
    exact absurd hNil (append_ne_nil_of_right_ne_nil _ (cons_ne_nil _ _))

lemma Confined.replyTo
  (src : SocketAddr) (data : Bytes) : (a.replyTo src data).Confined expected := { hConf with
  replied_to := by
    intro r hMem
    rcases mem_append.mp hMem with hOld | hNew
    · exact hConf.replied_to r hOld
    · rcases map_eq_some_iff.mp (mem_toList.mp hNew) with ⟨c, hClient, rfl⟩
      exact hClient }

lemma Confined.congr (running : Bool)
  (refused : UInt64) : Confined expected { a with running := running, refused := refused } :=
  { hConf with }

variable (hNormal : normalizeIp expected = expected)

include hNormal

lemma Confined.step {e : RelayEvent} (hStep : a.step lib e = some a') : a'.Confined expected := by
  rcases ite_none_right_eq_some.mp hStep with ⟨_, hTurn⟩
  cases hTurn
  cases e with
  | datagram source data env =>
    simp only [turn]
    split
    next hAllowed => exact hConf.accept hNormal hAllowed env _
    · exact hConf.congr a.running _
  | relayError | stackClosed | controlEnd => exact hConf.congr false _
  | stackReply src data => exact hConf.replyTo src data
  | directReply => exact hConf.replyTo _ _
  | directError | control => exact hConf

lemma step_of_not_served (hRunning : a.running) (hOther : ∀ c ∈ a.client, source ≠ c)
  (hForeign : a.client = none → normalizeIp source.ip ≠ expected)
  (data : Bytes) (env : Lookup) : a.step lib (.datagram source data env) = some a.refuse := by
  have hNot : ¬udpSourceAllowed a.expected a.client source := by
    intro hAllowed
    cases hClient : a.client with
    | none => exact hForeign hClient (ip_of_allowed hConf hNormal hAllowed)
    | some known => exact hOther known hClient (eq_source_of_allowed hAllowed hClient).symm
  simp only [Association.step, turn, if_pos hRunning, if_neg hNot]

end

/-
  In every run of an association, whatever its rules and its network answer: all accepted and
  forwarded datagrams come from one socket address with the expected IP, all replies go to it, and
  none goes out before a datagram was accepted.
-/
theorem confined_of_reaches
    (lib : Libraries)
    (controlPeer : PeerAddr)
    (requested : Target)
    (a : Association)
    (hRun : Run.Reaches (step lib) Run.Always (associate controlPeer requested) a) :
    a.Confined (expectedUdpSource controlPeer requested) ∧
    (a.accepted = [] → a.replies = []) ∧
    ∀ source data env,
      a.running = true →
      (∀ c ∈ a.client, source ≠ c) →
      (a.client = none → normalizeIp source.ip ≠ expectedUdpSource controlPeer requested) →
      a.step lib (.datagram source data env) = some a.refuse := by
  have hNormal := normalizeIp_expectedUdpSource controlPeer requested
  have hConf : a.Confined (expectedUdpSource controlPeer requested) :=
    Run.Reaches.invariant (I := Confined (expectedUdpSource controlPeer requested))
      (confined_associate controlPeer requested)
      (fun hConf _ hStep => hConf.step hNormal hStep) hRun
  refine ⟨hConf, ?_, ?_⟩
  · intro hNone
    have hClient := hConf.latched hNone
    apply eq_nil_iff_forall_not_mem.mpr
    intro r hMem
    have hTo := hConf.replied_to r hMem
    rw [hClient] at hTo
    cases hTo
  · intro source data env hRunning hOther hForeign
    exact step_of_not_served hConf hNormal hRunning hOther hForeign data env

def controlOf : PeerAddr := .v4 ⟨10, 0, 0, 7⟩ 40000

def mappedClient : PeerAddr := .v6 ⟨0xffff0a000007#128⟩ 5000 0 0

def stranger : PeerAddr := .v4 ⟨10, 0, 0, 8⟩ 5000

def noRules : Lookup where
  rules := ⟨[], []⟩
  lookupHost := fun _ _ => none
  dnsResolve := fun _ => none

def requestBytes : Bytes := [0, 0, 0, 1, 8, 8, 8, 8, 0, 53, 0xab]

def mixedEvents : List RelayEvent := [.datagram stranger requestBytes noRules,
  .datagram mappedClient requestBytes noRules,
  .datagram stranger requestBytes noRules,
  .stackReply ⟨.v4 ⟨8, 8, 8, 8⟩, 53⟩ [0xcd]]

theorem confined_of_reaches_mixed : ∃ a, Run.exec (step asciiLibraries)
  (associate controlOf (.ip (.v4 ⟨0, 0, 0, 0⟩))) mixedEvents = some a ∧ a.client =
  some mappedClient ∧ a.forwarded = [(mappedClient, .proxy ⟨.v4 ⟨8, 8, 8, 8⟩, 53⟩ [0xab])] ∧
  a.Confined (expectedUdpSource controlOf (.ip (.v4 ⟨0, 0, 0, 0⟩))) := by
  refine ⟨_, rfl, by decide, by decide, ?_⟩
  apply (confined_of_reaches asciiLibraries controlOf (.ip (.v4 ⟨0, 0, 0, 0⟩)) _ _).1
  exact Run.Reaches.start.of_exec rfl (Run.taken_always _ _ mixedEvents)

end Association

end Kourosh.Socks
