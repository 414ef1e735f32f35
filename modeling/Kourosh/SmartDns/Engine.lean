import Kourosh.Dns.Matcher
import Kourosh.Lib.Utf8

/-
  The smart DNS engine.

  A query from the TUN device is answered from the cache, by the encrypted resolvers, by the
  user's resolvers, by the built-in lists, or with an error.

  Main declarations
    * `SmartDnsSplit` : the state of the engine
    * `SmartDnsSplit.Answered` : an answer, the engine behind it and the plain queries sent for it
    * `SmartDnsSplit.processQuery` : the answer to a packet
    * `SmartDnsSplit.plainQueries` : the plain queries that are sent for a packet
-/

-- Data

namespace Kourosh.SmartDns

inductive DnsTransport where
  | plain
  | dot
  | doh
deriving DecidableEq

structure DnsEndpoint where
  address : List Char
  transport : DnsTransport
  name : Option (List Char)
deriving DecidableEq

structure CachedResponse where
  data : Bytes
  expires : Nat

structure SmartDnsSplit where
  cache : List (Bytes × CachedResponse)
  encryptedResolvers : List DnsEndpoint
  userResolvers : List DnsEndpoint

/-
  Library functions the engine calls: Unicode lower case on the UTF-8 bytes of a text, and the
  test whether a message parser accepts a byte string.
-/
structure Libraries where
  toLowercase : Bytes → Bytes
  isMessage : Bytes → Bool
  length_of_isMessage : ∀ {msg}, isMessage msg = true → 12 ≤ msg.length

def asciiLibraries : Libraries where
  toLowercase := fun name => name.map asciiLower
  isMessage := fun msg => 12 ≤ msg.length
  length_of_isMessage := by
    intro msg hMessage
    simpa using hMessage

structure Environment where
  -- milliseconds, at the cache lookup and at the insertion
  lookupTime : Nat
  insertTime : Nat
  -- the name can be encoded for an encrypted resolver
  encodable : Bool
  -- replies of DoT and DoH resolvers
  encrypted : DnsEndpoint → Option Bytes
  -- drawn by `build_query`
  newId : UInt16
  -- datagrams for each resolver whose socket can be opened
  user : DnsEndpoint → Option (List Bytes)
  -- datagrams for each socket of the built-in lists
  antiSanction : List (List Bytes)
  fallback : List (List Bytes)

def dnsPort : UInt16 := 53

def cacheTtl : Nat := 300000

def geminiDomains : List Bytes := [ascii "gemini.google.com",
  ascii "generativelanguage.googleapis.com",
  ascii "alkalinetransmit-pa.googleapis.com",
  ascii "bard.google.com",
  ascii "proactivity-pa.googleapis.com"]

def isGeminiDomain (lib : Libraries) (name : Bytes) : Bool :=
  let lower := lib.toLowercase name
  geminiDomains.any fun domain => lower == domain || (46 :: domain).isSuffixOf lower

-- Messages

def buildQuery (id : UInt16) (name : Bytes) (qtype : UInt16) : Bytes :=
  u16ToBe id ++ [0x01, 0x00] ++ [0x00, 0x01] ++ [0x00, 0x00, 0x00, 0x00, 0x00, 0x00] ++
    ((labels name).flatMap fun label =>
      if label.isEmpty then [] else UInt8.ofNat label.length :: label) ++
    [0x00] ++ u16ToBe qtype ++ [0x00, 0x01]

def buildErrorResponse (query : Bytes) (id : UInt16) : Bytes :=
  u16ToBe id ++ [0x81, 0x02] ++ query.drop 4

def restoreId (payload resp : Bytes) : Bytes :=
  if resp.length ≥ 2 ∧ payload.length ≥ 2 then payload.take 2 ++ resp.drop 2
  else resp

/- The labels of the client's question, decoded one by one. -/
def readLabels : Nat → Bytes → List Bytes → Option (List Bytes × Bytes)
| _, [], _ => none
| skip + 1, _ :: rest, names => readLabels skip rest names
| 0, len :: rest, names =>
  if len = 0 then some (names, rest)
  else if len &&& 0xC0 = 0xC0 then none
  else if rest.length < len.toNat then none
  else readLabels len.toNat rest (names ++ [utf8Lossy (rest.take len.toNat)])

/- `labels.join(".")`. -/
def joinLabels (names : List Bytes) : Bytes := [46].intercalate names

-- Asking Resolvers

/- Each socket waits for its first matching datagram, and the first socket that got one decides. -/
def parallelQuery (sockets : List (List Bytes))
  (expectedId : UInt16) (name : Bytes) (qtype : UInt16) : Option Bytes :=
  sockets.findSome? fun datagrams =>
    datagrams.find? fun resp => responseMatches resp expectedId name qtype

def queryEndpoints (env : Environment) (endpoints : List DnsEndpoint)
  (expectedId : UInt16) (name : Bytes) (qtype : UInt16) : Option Bytes :=
  let socks := endpoints.filterMap env.user
  if socks.isEmpty then none else parallelQuery socks expectedId name qtype

namespace SmartDnsSplit

/- The state after `SmartDnsSplit::new`. -/
def new : SmartDnsSplit where
  cache := []
  encryptedResolvers := []
  userResolvers := []

variable (lib : Libraries) (env : Environment) (engine : SmartDnsSplit)

def setEncryptedResolvers (endpoints : List DnsEndpoint) : SmartDnsSplit :=
  { engine with encryptedResolvers := endpoints }

def setResolvers (resolvers : List DnsEndpoint) : SmartDnsSplit :=
  { engine with userResolvers := resolvers }

def hasEncrypted : Bool := !engine.encryptedResolvers.isEmpty

/- The endpoints `encrypted_query` tries, in order. -/
def encryptedTried : List DnsEndpoint :=
  engine.encryptedResolvers.filter fun ep => ep.transport ≠ .plain

/- The endpoints `process_query` asks over UDP. -/
def plainUser : List DnsEndpoint :=
  engine.userResolvers.filter fun ep => ep.transport = .plain

def encryptedQuery : Option Bytes :=
  if engine.encryptedResolvers.isEmpty then none
  else if !env.encodable then none
  else engine.encryptedTried.findSome? fun ep => (env.encrypted ep).filter lib.isMessage

def encryptedAnswer : Option Bytes :=
  if engine.hasEncrypted then engine.encryptedQuery lib env else none

def cached (key : Bytes) (now : Nat) : Option Bytes :=
  match engine.cache.lookup key with
  | none => none
  | some entry => if entry.expires > now then some entry.data else none

def store (key data : Bytes) (now : Nat) : SmartDnsSplit :=
  let cache := if engine.cache.length > 1024 then [] else engine.cache
  { engine with
    cache := (key, { data, expires := now + cacheTtl }) :: cache.filter fun entry => entry.1 ≠ key }

-- Queries

def cacheKey (payload : Bytes) : Bytes := [0, 0] ++ payload.drop 2

/- An answer, the engine behind it, and the datagrams the plain sockets were given to send. -/
structure Answered where
  answer : Bytes × Bool
  engine : SmartDnsSplit
  sent : List Bytes

/- The answer of a user's plain resolver. -/
def userAnswer (domain : Bytes) (qtype : UInt16) : Option Bytes :=
  if engine.plainUser.isEmpty then none
  else queryEndpoints env engine.plainUser env.newId domain qtype

/- Every socket of a list that is asked is given the same query. -/
def askPlain
  (payload domain : Bytes) (qtype : UInt16) : Answered :=
  let key := cacheKey payload
  let query := buildQuery env.newId domain qtype
  let toUser := (engine.plainUser.filterMap env.user).map fun _ => query
  let toAntiSanction := toUser ++ env.antiSanction.map fun _ => query
  let toFallback := toAntiSanction ++ env.fallback.map fun _ => query
  match engine.userAnswer env domain qtype with
  | some resp => ⟨(resp, true), engine.store key (restoreId payload resp) env.insertTime, toUser⟩
  | none =>
    match parallelQuery env.antiSanction env.newId domain qtype with
    | some resp => ⟨(resp, true), engine.store key resp env.insertTime, toAntiSanction⟩
    | none =>
      match parallelQuery env.fallback env.newId domain qtype with
      | some resp => ⟨(resp, false), engine.store key resp env.insertTime, toFallback⟩
      | none => ⟨(buildErrorResponse query env.newId, true), engine, toFallback⟩

/- The cache and the encrypted resolvers come first, and where one answers no plain query is sent. -/
def answer
  (payload domain : Bytes) (qtype : UInt16) : Answered :=
  let key := cacheKey payload
  match engine.cached key env.lookupTime with
  | some resp => ⟨(restoreId payload resp, true), engine, []⟩
  | none =>
    match engine.encryptedAnswer lib env with
    | some resp => ⟨(resp, true), engine.store key (restoreId payload resp) env.insertTime, []⟩
    | none => engine.askPlain env payload domain qtype

def question (packet : Bytes) (ihl : Nat) : Option (Bytes × Bytes × UInt16) :=
  if packet.length < ihl + 8 then none
  else
    let udp := packet.drop ihl
    if u16At udp 2 ≠ dnsPort ∨ udp.length ≤ 8 then none
    else
      let payload := udp.drop 8
      if payload.length < 12 then none
      else
        match readLabels 0 (payload.drop 12) [] with
        | none => none
        | some (names, rest) =>
          if rest.length < 4 then none
          else some (payload, joinLabels names, u16At rest 0)

/- What `process_query` answers, if it answers. -/
def answered (packet : Bytes) (ihl : Nat) : Option Answered :=
  match question packet ihl with
  | none => none
  | some (payload, domain, qtype) =>
    if isGeminiDomain lib domain then some (engine.answer lib env payload domain qtype)
    else none

variable {lib env engine} in
/- An answer is given exactly to a question for one of the listed domains. -/
lemma answered_eq_some_iff
    {packet : Bytes}
    {ihl : Nat}
    {a : Answered} :
    engine.answered lib env packet ihl = some a ↔
      ∃ payload domain qtype,
        question packet ihl = some (payload, domain, qtype) ∧
        isGeminiDomain lib domain = true ∧
        engine.answer lib env payload domain qtype = a := by
  unfold answered
  cases question packet ihl with
  | none => simp
  | some asked =>
    rcases asked with ⟨payload, domain, qtype⟩
    simp only [Option.ite_none_right_eq_some, Option.some.injEq, Prod.mk.injEq]
    constructor
    · rintro ⟨hGemini, hAnswer⟩
      exact ⟨payload, domain, qtype, ⟨rfl, rfl, rfl⟩, hGemini, hAnswer⟩
    · rintro ⟨_, _, _, ⟨rfl, rfl, rfl⟩, hGemini, hAnswer⟩
      exact ⟨hGemini, hAnswer⟩

/- `process_query`. -/
def processQuery (packet : Bytes) (ihl : Nat) : Option (Bytes × Bool) × SmartDnsSplit :=
  match engine.answered lib env packet ihl with
  | none => (none, engine)
  | some answered => (some answered.answer, answered.engine)

/- The datagrams `process_query` gives to plain sockets. -/
def plainQueries (packet : Bytes) (ihl : Nat) : List Bytes :=
  match engine.answered lib env packet ihl with
  | none => []
  | some answered => answered.sent

-- What A Query Stores

/- The data a resolver's answer is stored as, for a question that misses the cache. -/
def resolved
  (payload domain : Bytes) (qtype : UInt16) : Option Bytes :=
  (((engine.encryptedAnswer lib env).or (engine.userAnswer env domain qtype)).map
    (restoreId payload)).or
    ((parallelQuery env.antiSanction env.newId domain qtype).or
      (parallelQuery env.fallback env.newId domain qtype))

/- The payload and the data of the entry a query adds to the cache, if it adds one. -/
def inserted (packet : Bytes) (ihl : Nat) : Option (Bytes × Bytes) :=
  match question packet ihl with
  | none => none
  | some (payload, domain, qtype) =>
    if isGeminiDomain lib domain ∧ engine.cached (cacheKey payload) env.lookupTime = none then
      (engine.resolved lib env payload domain qtype).map (payload, ·)
    else none

/- The engine behind an answer: one entry more, or the same. -/
lemma engine_answer
    (payload domain : Bytes)
    (qtype : UInt16) :
    (engine.answer lib env payload domain qtype).engine =
      match engine.cached (cacheKey payload) env.lookupTime with
      | some _ => engine
      | none =>
        match engine.resolved lib env payload domain qtype with
        | some data => engine.store (cacheKey payload) data env.insertTime
        | none => engine := by
  unfold answer askPlain resolved
  simp only
  cases engine.cached (cacheKey payload) env.lookupTime with
  | some => rfl
  | none =>
    cases engine.encryptedAnswer lib env with
    | some => rfl
    | none =>
      cases engine.userAnswer env domain qtype with
      | some => rfl
      | none =>
        cases parallelQuery env.antiSanction env.newId domain qtype with
        | some => rfl
        | none => cases parallelQuery env.fallback env.newId domain qtype <;> rfl

/- The engine behind a query: it stores what the query inserts and is otherwise unchanged. -/
lemma engine_processQuery
    (packet : Bytes)
    (ihl : Nat) :
    (engine.processQuery lib env packet ihl).2 =
      match engine.inserted lib env packet ihl with
      | none => engine
      | some (payload, data) => engine.store (cacheKey payload) data env.insertTime := by
  unfold processQuery answered inserted
  cases question packet ihl with
  | none => rfl
  | some asked =>
    rcases asked with ⟨payload, domain, qtype⟩
    cases hGemini : isGeminiDomain lib domain with
    | false => simp [hGemini]
    | true =>
      simp only [hGemini, if_true, engine_answer, true_and]
      cases engine.cached (cacheKey payload) env.lookupTime with
      | some => simp
      | none => cases engine.resolved lib env payload domain qtype <;> rfl

end SmartDnsSplit

end Kourosh.SmartDns
