import Kourosh.Lib.Run
import Kourosh.SmartDns.Endpoint

/-
  How the resolver lists of a start reach the engine.

  The engine is a global that is set once in a process.

  Correctness is proven by:
    * `consults_each_start_iff`
-/

-- Starts

namespace Kourosh.SmartDns

open Run
open List

structure StartOptions where
  smartDns : Bool
  smartDnsServers : Option (List Char)
  dnsServersDot : Option (List Char)
  dnsServersDoh : Option (List Char)

inductive Transport where
  | masque
  | wireguard
  | warpInWarp
  | masqueInMasque
deriving DecidableEq

/- `SMART_DNS`, which is set once. -/
abbrev EngineCell := Option SmartDnsSplit

/- `set_resolvers`, ignored without an engine. -/
def setResolvers (resolvers : List DnsEndpoint)
  (cell : EngineCell) : EngineCell := cell.map (·.setResolvers resolvers)

/- `init_smart_dns`, for what opening the sockets of a new engine gives. -/
def initSmartDns (opened : Except AetherError Unit) (cell : EngineCell) :
  Except AetherError SmartDnsSplit :=
  match opened, cell with
  | .error e, _ => .error e
  | .ok _, some _ => .error (.other "Smart DNS already initialized")
  | .ok _, none => .ok SmartDnsSplit.new

variable {cell : EngineCell} {engine : SmartDnsSplit} {lib : Libraries}

lemma eq_new_of_initSmartDns {opened : Except AetherError Unit}
  (hInit : initSmartDns opened cell = .ok engine) : engine = SmartDnsSplit.new := by
  unfold initSmartDns at hInit
  split at hInit
  · cases hInit
  · cases hInit
  · cases hInit
    rfl

namespace StartOptions

def dotAndDoh (options : StartOptions) : List (List Char) :=
  [options.dnsServersDot, options.dnsServersDoh].reduceOption

def encryptedLists (options : StartOptions) : List DnsEndpoint :=
  options.dotAndDoh.flatMap parseList

def smartList (options : StartOptions) : List DnsEndpoint :=
  options.smartDnsServers.toList.flatMap parseList

def requested (options : StartOptions) : List DnsEndpoint :=
  options.encryptedLists ++ options.smartList

end StartOptions

def pushEncryptedResolvers (options : StartOptions) (cell : EngineCell) : EngineCell :=
  let raw := entries options.dotAndDoh
  if raw.isEmpty then cell
  else
    let parsed := raw.filterMap DnsEndpoint.parse
    if parsed.isEmpty then cell else setResolvers parsed cell

section Start

variable (transport : Transport) (opened : Except AetherError Unit) (options : StartOptions)
variable (cell : EngineCell)

/- The smart DNS part of `run_masque_tunnel`. -/
def startMasque : EngineCell :=
  let cell := pushEncryptedResolvers options cell
  if options.smartDns then
    match initSmartDns opened cell with
    | .error _ => cell
    | .ok engine =>
      match options.smartDnsServers with
      | none => some engine
      | some list => setResolvers (parseList list) (some engine)
  else cell

/- `run_warp_in_warp`, where an empty list is not pushed. -/
def startWarpInWarp : EngineCell :=
  let cell := pushEncryptedResolvers options cell
  if options.smartDns then
    match initSmartDns opened cell with
    | .error _ => cell
    | .ok engine =>
      match options.smartDnsServers with
      | none => some engine
      | some list =>
        let resolvers := parseList list
        if resolvers.isEmpty then some engine
        else setResolvers resolvers (some engine)
  else cell

def start : EngineCell :=
  match transport with
  | .masque => startMasque opened options cell
  | .warpInWarp => startWarpInWarp opened options cell
  | .wireguard => pushEncryptedResolvers options cell
  -- the engine is not touched here
  | .masqueInMasque => cell

-- What A Start Does

lemma pushEncryptedResolvers_eq :
  pushEncryptedResolvers options cell = if options.encryptedLists.isEmpty then cell
    else setResolvers options.encryptedLists cell := by
  simp only [pushEncryptedResolvers, filterMap_parse_entries]
  split
  next hRaw =>
    have hNone : options.encryptedLists = [] := by
      rw [StartOptions.encryptedLists, ← filterMap_parse_entries,
        isEmpty_iff.mp hRaw, filterMap_nil]
    rw [if_pos (isEmpty_iff.mpr hNone)]
  · rfl

def creates : Bool :=
  (transport = .masque || transport = .warpInWarp) && options.smartDns && opened.isOk && cell.isNone

/-
  An engine that is created gets the smart DNS list alone: it is not there yet when the other
  lists are pushed.
-/
lemma startMasque_eq : startMasque opened options cell = if creates .masque opened options cell then
  some (SmartDnsSplit.new.setResolvers options.smartList)
  else pushEncryptedResolvers options cell := by
  rw [startMasque, creates, StartOptions.smartList, pushEncryptedResolvers_eq]
  cases options.smartDns with
  | false => simp
  | true =>
    cases opened with
    | error => simp [initSmartDns, Except.isOk, Except.toBool]
    | ok =>
      cases cell with
      | some =>
        cases options.encryptedLists <;>
          simp [initSmartDns, setResolvers]
      | none =>
        cases options.smartDnsServers <;>
          simp [initSmartDns, setResolvers, Except.isOk, Except.toBool]
        rfl

lemma startWarpInWarp_eq_startMasque :
  startWarpInWarp opened options cell = startMasque opened options cell := by
  unfold startWarpInWarp startMasque
  simp only
  split
  · cases hInit : initSmartDns opened (pushEncryptedResolvers options cell) with
    | error => rfl
    | ok engine =>
      have hNew := eq_new_of_initSmartDns hInit
      cases options.smartDnsServers with
      | none => rfl
      | some list =>
        simp only
        split
        next hEmpty =>
          rw [isEmpty_iff.mp hEmpty, hNew]
          rfl
        · rfl
  · rfl

lemma start_eq : start transport opened options cell =
    if creates transport opened options cell then
      some (SmartDnsSplit.new.setResolvers options.smartList)
    else if transport = .masqueInMasque then cell
    else pushEncryptedResolvers options cell := by
  cases transport with
  | masque => exact startMasque_eq opened options cell
  | warpInWarp =>
    rw [start, startWarpInWarp_eq_startMasque, startMasque_eq]
    rfl
  | wireguard | masqueInMasque => rfl

end Start

-- Runs Of The Process

inductive Event where
  | start (transport : Transport) (opened : Except AetherError Unit) (options : StartOptions)
  | query (env : Environment) (packet : Bytes) (ihl : Nat)

def step (lib : Libraries) (cell : EngineCell) : Event → Option EngineCell
| .start transport opened options => some (start transport opened options cell)
| .query env packet ihl => cell.map fun engine => some (engine.processQuery lib env packet ihl).2

lemma SmartDnsSplit.encryptedResolvers_processQuery
  (lib : Libraries) (env : Environment) (engine : SmartDnsSplit) (packet : Bytes) (ihl : Nat) :
  (engine.processQuery lib env packet ihl).2.encryptedResolvers = engine.encryptedResolvers := by
  rw [engine_processQuery]
  cases engine.inserted lib env packet ihl <;> rfl

def NoEncrypted (cell : EngineCell) : Prop := ∀ engine ∈ cell, engine.encryptedResolvers = []

lemma noEncrypted_setResolvers (hNone : NoEncrypted cell)
  (resolvers : List DnsEndpoint) : NoEncrypted (setResolvers resolvers cell) := by
  intro engine hEngine
  rcases Option.map_eq_some_iff.mp hEngine with ⟨old, hOld, rfl⟩
  exact hNone old hOld

lemma noEncrypted_start (hNone : NoEncrypted cell) (transport : Transport)
  (opened : Except AetherError Unit) (options : StartOptions) :
  NoEncrypted (start transport opened options cell) := by
  rw [start_eq, pushEncryptedResolvers_eq]
  split
  · intro engine hEngine
    cases hEngine
    rfl
  · split
    · exact hNone
    · split
      · exact hNone
      · exact noEncrypted_setResolvers hNone _

lemma noEncrypted_of_reaches (hRun : Reaches (step lib) Always none cell) : NoEncrypted cell := by
  apply hRun.invariant
  · exact nofun
  · intro s s' event hNone _ hStep
    cases event with
    | start transport opened options =>
      cases hStep
      exact noEncrypted_start hNone transport opened options
    | query =>
      rcases Option.map_eq_some_iff.mp hStep with ⟨engine, hEngine, rfl⟩
      intro engine' hEngine'
      cases hEngine'
      rw [SmartDnsSplit.encryptedResolvers_processQuery]
      exact hNone engine hEngine

-- The Consulted Endpoints

def plainUser (cell : EngineCell) : List DnsEndpoint := cell.elim [] SmartDnsSplit.plainUser

/- The endpoints `encrypted_query` tries. -/
def encryptedTried (cell : EngineCell) : List DnsEndpoint :=
  cell.elim [] SmartDnsSplit.encryptedTried

structure Consults (requested : List DnsEndpoint) (cell : EngineCell) : Prop where
  plain : ∀ ep, ep ∈ plainUser cell ↔ ep ∈ requested ∧ ep.transport = .plain
  encrypted : ∀ ep, ep ∈ encryptedTried cell ↔ ep ∈ requested ∧ ep.transport ≠ .plain
  hasEncrypted :
    (∃ ep ∈ requested, ep.transport ≠ .plain) → cell.any SmartDnsSplit.hasEncrypted = true

lemma encryptedTried_eq_nil (hNone : NoEncrypted cell) : encryptedTried cell = [] := by
  cases cell with
  | none => rfl
  | some engine =>
    rw [encryptedTried, Option.elim, SmartDnsSplit.encryptedTried, hNone engine rfl, filter_nil]

lemma consults_iff
  {requested : List DnsEndpoint} (hNone : NoEncrypted cell) : Consults requested cell ↔
  (∀ ep ∈ requested, ep.transport = .plain) ∧ ∀ ep, ep ∈ plainUser cell ↔ ep ∈ requested := by
  constructor
  · intro hConsults
    have hPlain : ∀ ep ∈ requested, ep.transport = .plain := by
      intro ep hMem
      by_contra hEncrypted
      have hTried := (hConsults.encrypted ep).mpr ⟨hMem, hEncrypted⟩
      rw [encryptedTried_eq_nil hNone] at hTried
      cases hTried
    refine ⟨hPlain, ?_⟩
    intro ep
    rw [hConsults.plain ep]
    exact ⟨fun h => h.1, fun h => ⟨h, hPlain ep h⟩⟩
  · rintro ⟨hPlain, hAsked⟩
    constructor
    · intro ep
      rw [hAsked ep]
      exact ⟨fun h => ⟨h, hPlain ep h⟩, fun h => h.1⟩
    · intro ep
      rw [encryptedTried_eq_nil hNone]
      constructor
      · exact nofun
      · rintro ⟨hMem, hEncrypted⟩
        exact absurd (hPlain ep hMem) hEncrypted
    · rintro ⟨ep, hMem, hEncrypted⟩
      exact absurd (hPlain ep hMem) hEncrypted

/-
  The lists of a start take effect: every entry is plain, and the one list that is written, or the
  resolvers that are left in place, has all of the entries.
-/
def Effective (transport : Transport) (opened : Except AetherError Unit)
  (options : StartOptions) (cell : EngineCell) : Prop :=
  (∀ ep ∈ options.requested, ep.transport = .plain) ∧ if creates transport opened options cell then
    options.encryptedLists ⊆ options.smartList
    else if cell = none ∨ transport = .masqueInMasque ∨ options.encryptedLists = [] then
      ∀ ep, ep ∈ plainUser cell ↔ ep ∈ options.requested
    else options.smartList ⊆ options.encryptedLists

lemma mem_plainUser_setResolvers {resolvers : List DnsEndpoint}
  (hPlain : ∀ ep ∈ resolvers, ep.transport = .plain) (ep : DnsEndpoint) :
  ep ∈ plainUser (some (engine.setResolvers resolvers)) ↔ ep ∈ resolvers := by
  have hMem : ep ∈ plainUser (some (engine.setResolvers resolvers)) ↔
    ep ∈ resolvers ∧ ep.transport = .plain := by
    simp [plainUser, SmartDnsSplit.plainUser, SmartDnsSplit.setResolvers]
  rw [hMem]
  exact ⟨fun h => h.1, fun h => ⟨h, hPlain ep h⟩⟩

lemma consults_start_iff (hRun : Reaches (step lib) Always none cell) (transport : Transport)
  (opened : Except AetherError Unit) (options : StartOptions) : Consults options.requested
  (start transport opened options cell) ↔ Effective transport opened options cell := by
  have hNone := noEncrypted_of_reaches hRun
  rw [consults_iff (noEncrypted_start hNone transport opened options)]
  unfold Effective
  apply and_congr_right
  intro hPlain
  have hDotPlain : ∀ ep ∈ options.encryptedLists, ep.transport = .plain :=
    fun ep hMem => hPlain ep (mem_append_left _ hMem)
  have hSmartPlain : ∀ ep ∈ options.smartList, ep.transport = .plain :=
    fun ep hMem => hPlain ep (mem_append_right _ hMem)
  rw [start_eq, pushEncryptedResolvers_eq]
  by_cases hCreates : creates transport opened options cell
  · rw [if_pos hCreates, if_pos hCreates]
    simp only [mem_plainUser_setResolvers hSmartPlain]
    simp [StartOptions.requested, subset_def]
  · rw [if_neg hCreates, if_neg hCreates]
    by_cases hKept : cell = none ∨ transport = .masqueInMasque ∨ options.encryptedLists = []
    · -- nothing is written: the cell stays as it was
      rw [if_pos hKept]
      rcases hKept with rfl | hTransport | hEmpty
      · simp [setResolvers]
      · simp [hTransport]
      · simp [hEmpty]
    · rw [if_neg hKept]
      rw [not_or, not_or] at hKept
      rcases hKept with ⟨hCell, hTransport, hSome⟩
      rcases Option.ne_none_iff_exists'.mp hCell with ⟨engine, rfl⟩
      rw [if_neg hTransport, if_neg (by simpa using hSome)]
      simp only [setResolvers, Option.map_some, mem_plainUser_setResolvers hDotPlain]
      simp [StartOptions.requested, subset_def]

def ConsultsAfter (cell : EngineCell) : Event → Prop
| .start transport opened options =>
  Consults options.requested (start transport opened options cell)
| .query _ _ _ => True

def EffectiveIn (cell : EngineCell) : Event → Prop
| .start transport opened options => Effective transport opened options cell
| .query _ _ _ => True

/-
  Resolver configuration: along every sequence of starts and queries of a process, each start
  makes the engine consult exactly the endpoints of its lists if and only if they take effect as
  above.
-/
theorem consults_each_start_iff
    (lib : Libraries)
    (events : List Event) :
    Taken (step lib) (fun cell event => ConsultsAfter cell event ↔ EffectiveIn cell event) none
      events := by
  apply taken_of_reaches _ .start
  intro cell hRun event
  cases event with
  | start transport opened options => exact consults_start_iff hRun transport opened options
  | query => exact Iff.rfl

def withDot (dot : String) : StartOptions where
  smartDns := true
  smartDnsServers := none
  dnsServersDot := some dot.toList
  dnsServersDoh := none

def SmartStart : Event → Prop
| .start _ _ options => options.smartDns = true
| .query _ _ _ => False

/- A DoT resolver of the first start is not among the endpoints the engine tries afterwards. -/
theorem dot_resolver_never_tried : ¬ ∀ (lib : Libraries) (events : List Event),
  (∀ event ∈ events, SmartStart event) → Taken (step lib) ConsultsAfter none events := by
  intro hAll
  have hTaken := hAll asciiLibraries [.start .masque (.ok ()) (withDot "tls://dns.example.com")]
    (by simp [SmartStart, withDot])
  have hConsults : Consults (withDot "tls://dns.example.com").requested
    (start .masque (.ok ()) (withDot "tls://dns.example.com") none) :=
    hTaken.1
  have hTried := (hConsults.encrypted ⟨"dns.example.com".toList, .dot,
    some "dns.example.com".toList⟩).mpr
    (by decide +kernel)
  exact absurd hTried (by decide +kernel)

end Kourosh.SmartDns
