import Kourosh.Lib.Run
import Kourosh.SmartDns.Engine

/-
  The transaction id of an answer.

  A cached answer gets the id of the client's query.

  Correctness is proven by:
    * `id_of_processQuery_iff`
-/

-- Ids

namespace Kourosh.SmartDns

open Run
open List

def clientId (packet : Bytes) (ihl : Nat) : Bytes := (packet.drop (ihl + 8)).take 2

lemma take_two_of_u16At {msg : Bytes} (hLength : 2 ≤ msg.length) :
  msg.take 2 = u16ToBe (u16At msg 0) := by
  match msg, hLength with
  | hi :: lo :: rest, _ => exact (u16FromBe_eq_iff.mp rfl).symm

variable {name resp : Bytes} {id qtype : UInt16} {payload : Bytes}

lemma take_two_of_responseMatches (hMatches : responseMatches resp id name qtype) :
  resp.take 2 = u16ToBe id ∧ 12 ≤ resp.length := by
  have hHeader : Dns.headerMatches resp id := by
    unfold responseMatches at hMatches
    split at hMatches
    · assumption
    · cases hMatches
  rcases Dns.headerMatches_iff.mp hHeader with ⟨hLength, hId, -, -⟩
  refine ⟨?_, hLength⟩
  rw [take_two_of_u16At (by omega), hId]

lemma take_two_of_parallelQuery
  {sockets : List (List Bytes)} (hAnswer : parallelQuery sockets id name qtype = some resp) :
  resp.take 2 = u16ToBe id ∧ 12 ≤ resp.length := by
  rcases exists_of_findSome?_eq_some hAnswer with ⟨datagrams, -, hFind⟩
  have hMatches : responseMatches resp id name qtype := by simpa using find?_some hFind
  exact take_two_of_responseMatches hMatches

lemma take_two_of_queryEndpoints {env : Environment} {endpoints : List DnsEndpoint}
  (hAnswer : queryEndpoints env endpoints id name qtype = some resp) :
  resp.take 2 = u16ToBe id ∧ 12 ≤ resp.length := by
  unfold queryEndpoints at hAnswer
  simp only at hAnswer
  split at hAnswer
  · cases hAnswer
  · exact take_two_of_parallelQuery hAnswer

lemma take_two_of_restoreId (hPayload : 2 ≤ payload.length)
  (hResp : 2 ≤ resp.length) : (restoreId payload resp).take 2 = payload.take 2 := by
  have hTwo : (payload.take 2).length = 2 := by
    rw [length_take]
    omega
  rw [restoreId, if_pos ⟨hResp, hPayload⟩, take_left' hTwo]

lemma length_restoreId (payload resp : Bytes) : (restoreId payload resp).length = resp.length := by
  unfold restoreId
  split
  next hLengths =>
    simp only [length_append, length_take, length_drop]
    omega
  · rfl

namespace SmartDnsSplit

-- The Cache

def CacheHoldsIds (engine : SmartDnsSplit) : Prop := ∀ entry ∈ engine.cache, 2 ≤ entry.2.data.length

variable {engine : SmartDnsSplit} {now : Nat} {lib : Libraries} {key : Bytes}

lemma cacheHoldsIds_store {data : Bytes} (hCache : engine.CacheHoldsIds)
  (hData : 2 ≤ data.length) : (engine.store key data now).CacheHoldsIds := by
  intro entry hEntry
  simp only [store, mem_cons, mem_filter] at hEntry
  rcases hEntry with rfl | ⟨hOld, -⟩
  · exact hData
  · split at hOld
    · cases hOld
    · exact hCache entry hOld

lemma mem_of_cached (hCached : engine.cached key now = some resp) :
  ∃ entry, (key, entry) ∈ engine.cache ∧ entry.data = resp := by
  unfold cached at hCached
  split at hCached
  · cases hCached
  next entry hLookup =>
    split at hCached
    · cases hCached
      rcases lookup_eq_some_iff.mp hLookup with ⟨l₁, l₂, hSplit, -⟩
      refine ⟨entry, ?_, rfl⟩
      rw [hSplit]
      simp
    · cases hCached

lemma length_of_cached (hCache : engine.CacheHoldsIds)
  (hCached : engine.cached key now = some resp) : 2 ≤ resp.length := by
  rcases mem_of_cached hCached with ⟨entry, hMem, rfl⟩
  exact hCache (key, entry) hMem

lemma length_of_encryptedAnswer {env : Environment}
  (hAnswer : engine.encryptedAnswer lib env = some resp) : 12 ≤ resp.length := by
  unfold encryptedAnswer encryptedQuery at hAnswer
  split at hAnswer
  · split at hAnswer
    · cases hAnswer
    · split at hAnswer
      · cases hAnswer
      · rcases exists_of_findSome?_eq_some hAnswer with ⟨ep, -, hReply⟩
        rcases Option.filter_eq_some_iff.mp hReply with ⟨-, hMessage⟩
        exact lib.length_of_isMessage hMessage
  · cases hAnswer

lemma askPlain_spec (env : Environment) (engine : SmartDnsSplit)
  (payload domain : Bytes) (qtype : UInt16) (hCache : engine.CacheHoldsIds) :
  (engine.askPlain env payload domain qtype).answer.1.take 2 = u16ToBe env.newId ∧
  (engine.askPlain env payload domain qtype).engine.CacheHoldsIds := by
  unfold askPlain userAnswer
  simp only
  split
  next resp hUser =>
    split at hUser
    · cases hUser
    · rcases take_two_of_queryEndpoints hUser with ⟨hId, hLength⟩
      refine ⟨hId, cacheHoldsIds_store hCache ?_⟩
      rw [length_restoreId]
      omega
  · split
    next resp hAnswer =>
      rcases take_two_of_parallelQuery hAnswer with ⟨hId, hLength⟩
      exact ⟨hId, cacheHoldsIds_store hCache (by omega)⟩
    · split
      next resp hAnswer =>
        rcases take_two_of_parallelQuery hAnswer with ⟨hId, hLength⟩
        exact ⟨hId, cacheHoldsIds_store hCache (by omega)⟩
      · exact ⟨rfl, hCache⟩

lemma cacheHoldsIds_answer (lib : Libraries) (env : Environment) (engine : SmartDnsSplit)
  (payload domain : Bytes) (qtype : UInt16) (hCache : engine.CacheHoldsIds) :
  (engine.answer lib env payload domain qtype).engine.CacheHoldsIds := by
  unfold answer
  simp only
  split
  · exact hCache
  · split
    next resp hAnswer =>
      have hLength := length_of_encryptedAnswer hAnswer
      apply cacheHoldsIds_store hCache
      rw [length_restoreId]
      omega
    · exact (askPlain_spec env engine payload domain qtype hCache).2

-- Runs Of The Engine

inductive Call where
  | processQuery (env : Environment) (packet : Bytes) (ihl : Nat)
  | setResolvers (resolvers : List DnsEndpoint)
  | setEncryptedResolvers (endpoints : List DnsEndpoint)

def step (lib : Libraries) (engine : SmartDnsSplit) : Call → Option SmartDnsSplit
| .processQuery env packet ihl => some (engine.processQuery lib env packet ihl).2
| .setResolvers resolvers => some (engine.setResolvers resolvers)
| .setEncryptedResolvers endpoints => some (engine.setEncryptedResolvers endpoints)

lemma cacheHoldsIds_processQuery
  (lib : Libraries) (env : Environment) (engine : SmartDnsSplit) (packet : Bytes) (ihl : Nat)
  (hCache : engine.CacheHoldsIds) : (engine.processQuery lib env packet ihl).2.CacheHoldsIds := by
  unfold processQuery
  split
  · exact hCache
  next a hAnswered =>
    rcases answered_eq_some_iff.mp hAnswered with ⟨payload, domain, qtype, -, -, rfl⟩
    exact cacheHoldsIds_answer lib env engine payload domain qtype hCache

lemma cacheHoldsIds_of_reaches (hRun : Reaches (step lib) Always new engine) :
  engine.CacheHoldsIds := by
  apply hRun.invariant
  · exact nofun
  · intro s s' call hCache _ hStep
    cases call with
    | processQuery env packet ihl =>
      cases hStep
      exact cacheHoldsIds_processQuery lib env s packet ihl hCache
    | setResolvers | setEncryptedResolvers =>
      cases hStep
      exact hCache

-- The Id Of An Answer

/-
  The answer is cached, or an encrypted resolver's reply carries the client's id itself, or
  neither happens and the engine draws the client's id.
-/
def IdKept (lib : Libraries) (env : Environment) (engine : SmartDnsSplit)
  (packet : Bytes) (ihl : Nat) : Prop :=
  match engine.cached (cacheKey (packet.drop (ihl + 8))) env.lookupTime with
  | some _ => True
  | none =>
    match engine.encryptedAnswer lib env with
    | some resp => resp.take 2 = clientId packet ihl
    | none => u16ToBe env.newId = clientId packet ihl

lemma question_spec {packet domain : Bytes} {ihl : Nat}
  (hQuestion : question packet ihl = some (payload, domain, qtype)) : payload =
  packet.drop (ihl + 8) ∧ 12 ≤ payload.length ∧ ∃ names rest, readLabels 0 (payload.drop 12) [] =
  some (names, rest) ∧ domain = joinLabels names ∧ qtype = u16At rest 0 := by
  unfold question at hQuestion
  simp only at hQuestion
  split at hQuestion
  · cases hQuestion
  · split at hQuestion
    · cases hQuestion
    · split at hQuestion
      · cases hQuestion
      next hLength =>
        split at hQuestion
        · cases hQuestion
        next names rest hLabels =>
          split at hQuestion
          · cases hQuestion
          · cases hQuestion
            have hDrop : (packet.drop ihl).drop 8 = packet.drop (ihl + 8) := drop_drop
            rw [hDrop] at hLength hLabels ⊢
            exact ⟨rfl, by omega, names, rest, hLabels, rfl, rfl⟩

lemma id_of_answer_iff (lib : Libraries) (env : Environment)
  (engine : SmartDnsSplit) (packet domain : Bytes) (ihl : Nat) (qtype : UInt16)
  (hCache : engine.CacheHoldsIds) (hPayload : 2 ≤ (packet.drop (ihl + 8)).length) :
  (engine.answer lib env (packet.drop (ihl + 8)) domain qtype).answer.1.take 2 =
    clientId packet ihl ↔ engine.IdKept lib env packet ihl := by
  unfold answer IdKept
  simp only
  cases hCached : engine.cached (cacheKey (packet.drop (ihl + 8))) env.lookupTime with
  | some =>
    have hLength := length_of_cached hCache hCached
    simp only [iff_true]
    exact take_two_of_restoreId hPayload hLength
  | none =>
    simp only
    cases hAnswer : engine.encryptedAnswer lib env with
    | some => rfl
    | none =>
      have hPlain := (askPlain_spec env engine (packet.drop (ihl + 8)) domain qtype hCache).1
      simp only [hPlain]

/-
  Transaction identity: an answer of the engine carries the client's id exactly if it is cached,
  or an encrypted resolver replied with the client's id, or no encrypted resolver replied and the
  engine drew the client's id.
-/
theorem id_of_processQuery_iff
    (lib : Libraries)
    (engine : SmartDnsSplit)
    (hRun : Reaches (step lib) Always new engine)
    (env : Environment)
    (packet : Bytes)
    (ihl : Nat)
    (resp : Bytes)
    (isGemini : Bool)
    (hSome : (engine.processQuery lib env packet ihl).1 = some (resp, isGemini)) :
    resp.take 2 = clientId packet ihl ↔ engine.IdKept lib env packet ihl := by
  have hCache := cacheHoldsIds_of_reaches hRun
  unfold processQuery at hSome
  split at hSome
  · cases hSome
  next a hAnswered =>
    rcases answered_eq_some_iff.mp hAnswered with ⟨payload, domain, qtype, hQuestion, -, rfl⟩
    rcases question_spec hQuestion with ⟨rfl, _, -⟩
    have hAnswer := id_of_answer_iff lib env engine packet domain ihl qtype hCache (by omega)
    simp only [Option.some.injEq] at hSome
    rw [hSome] at hAnswer
    exact hAnswer

def silence (newId : UInt16) : Environment where
  lookupTime := 0
  insertTime := 0
  encodable := true
  encrypted := fun _ => none
  newId := newId
  user := fun _ => none
  antiSanction := []
  fallback := []

def geminiQuery : Bytes := [0x30, 0x39, 0x00, 0x35, 0x00, 0x2b, 0x00, 0x00,
      0x12, 0x34, 0x01, 0x00, 0x00, 0x01, 0x00, 0x00,
      0x00, 0x00, 0x00, 0x00, 0x06] ++ ascii "gemini" ++
    [0x06] ++ ascii "google" ++ [0x03] ++ ascii "com" ++
    [0x00, 0x00, 0x01, 0x00, 0x01]

/- The error carries the client's id if that was drawn. -/
theorem id_of_processQuery_iff_drawn : ∃ resp isGemini,
  (new.processQuery asciiLibraries (silence 0x1234) geminiQuery 0).1 = some (resp, isGemini) ∧
  resp.take 2 = clientId geminiQuery 0 := by
  cases hSome : (new.processQuery asciiLibraries (silence 0x1234) geminiQuery 0).1 with
  | none => exact absurd hSome (by decide +kernel)
  | some answer =>
    refine ⟨answer.1, answer.2, rfl, ?_⟩
    apply (id_of_processQuery_iff asciiLibraries new .start
      (silence 0x1234) geminiQuery 0 _ _ hSome).mpr
    rfl

/-
  If no resolver answers, the client gets an error with the id that was drawn for the engine's own
  query.
-/
theorem servfail_with_other_id : ¬ ∀ (lib : Libraries) (engine : SmartDnsSplit), Reaches (step lib)
  Always new engine → ∀ env packet ihl resp isGemini, (engine.processQuery lib env packet ihl).1 =
  some (resp, isGemini) → resp.take 2 = clientId packet ihl := by
  intro hAll
  have hDrawn : ((new.processQuery asciiLibraries (silence 0xbeef)
        geminiQuery 0).1.map fun answer =>
      answer.1.take 2) = some [0xbe, 0xef] := by decide +kernel
  rcases Option.map_eq_some_iff.mp hDrawn with ⟨answer, hSome, hId⟩
  have hClient := hAll asciiLibraries new .start (silence 0xbeef) geminiQuery 0 _ _ hSome
  rw [hId] at hClient
  exact absurd hClient (by decide +kernel)

end SmartDnsSplit

end Kourosh.SmartDns
