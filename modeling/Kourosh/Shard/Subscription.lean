import Kourosh.Shard.Rotation

/-
  What one entry of a subscription costs the others.

  A line that is no link is passed over.

  Main declarations
    * `parse` : the nodes of a subscription
    * `Call.races` : the races of a start, as far as they can throw

  Correctness is proven by:
    * `parsing_is_local`
    * `start_survives_iff`
-/

-- Lines

namespace Kourosh.Shard

open List
open Distinct

/- Every line ends with `\n`. -/
def normalize : Text → Text
| [] => []
| '\r' :: '\n' :: rest => '\n' :: normalize rest
| '\r' :: rest => '\n' :: normalize rest
| c :: rest => c :: normalize rest

def lineSequence (body : Text) : List Text := (normalize body).splitOn '\n'

/- Whatever the body of `parseOne` throws is caught in it. -/
def parseOne {ε : Type} (link : Text → Except ε (Option Node)) (line : Text) : Option Node :=
  match link line with
  | .ok node => node
  | .error _ => none

section Parsing

variable {ε : Type} (link : Text → Except ε (Option Node))

def readLine (rawLine : Text) : Option Node :=
  let line := Jvm.trim rawLine
  if line.isEmpty || line.head? == some '#' then none else parseOne link line

def parse (body : Text) : List Node :=
  firsts Node.keyText [] ((lineSequence body).filterMap (readLine link))

variable {link}

/- The text goes on in a new line, behind a break of its own or not. -/
def Closes (text whole rest : Text) : Prop :=
  ∃ front, (text = front ∨ text = front ++ ['\n']) ∧ whole = front ++ '\n' :: rest

lemma Closes.cons {text whole rest : Text} (c : Char) (hCloses : Closes text whole rest) :
  Closes (c :: text) (c :: whole) rest := by
  rcases hCloses with ⟨front, hText, rfl⟩
  refine ⟨c :: front, ?_, rfl⟩
  rcases hText with rfl | rfl
  · exact .inl rfl
  · exact .inr rfl

lemma closes_normalize (body rest : Text) :
  Closes (normalize body) (normalize (body ++ '\n' :: rest)) (normalize rest) := by
  fun_induction normalize body with
  | case1 => exact ⟨[], .inl rfl, rfl⟩
  | case2 body ih => exact ih.cons '\n'
  | case3 body hNext ih =>
    cases body with
    | nil => exact ⟨[], .inr rfl, rfl⟩
    | cons c body =>
      rw [cons_append, cons_append, normalize]
      · exact ih.cons '\n'
      · intro other hOther
        exact hNext body (by rw [(cons.inj hOther).1])
  | case4 c body _ hReturn ih =>
    rw [cons_append, normalize]
    · exact ih.cons c
    · exact fun _ hC _ => hReturn hC
    · exact hReturn

lemma filterMap_lineSequence (body rest : Text) :
  (lineSequence (body ++ '\n' :: rest)).filterMap (readLine link) =
    (lineSequence body).filterMap (readLine link) ++
      (lineSequence rest).filterMap (readLine link) := by
  have hBlank : readLine link [] = none := rfl
  rcases closes_normalize body rest with ⟨front, hFront, hWhole⟩
  rw [lineSequence, hWhole, splitOn_append_cons_self, filterMap_append, lineSequence, lineSequence]
  congr 1
  rcases hFront with hFront | hFront
  · rw [hFront]
  · -- the break that is read as one with the next leaves a blank line
    rw [hFront, splitOn_append_cons_self, filterMap_append]
    simp [hBlank]

/- A line has no line break in it. -/
def IsLine (line : Text) : Prop := '\n' ∉ line ∧ '\r' ∉ line

lemma lineSequence_of_isLine {line : Text} (hLine : IsLine line) : lineSequence line = [line] := by
  have hSame : normalize line = line := by
    rcases hLine with ⟨-, hReturn⟩
    induction line with
    | nil => rfl
    | cons c line ih =>
      rw [mem_cons, not_or] at hReturn
      rw [normalize, ih hReturn.2]
      · exact fun _ hC => absurd hC.symm hReturn.1
      · exact fun hC => hReturn.1 hC.symm
  rw [lineSequence, hSame, splitOn_eq_singleton hLine.1]

lemma parse_append (body rest : Text) : parse link (body ++ '\n' :: rest) = parse link body ++
  (parse link rest).filter (·.keyText ∉ (parse link body).map Node.keyText) := by
  rw [parse, filterMap_lineSequence, firsts_append, firsts_eq_filter]
  exact congrArg _ (filter_congr fun _ _ => decide_eq_decide.mpr Iff.rfl)

/-
  The nodes of a body are those of its lines: a line that cannot be read is skipped, one with a
  new key adds its node, and no key comes twice.
-/
theorem parsing_is_local
    (link : Text → Except ε (Option Node)) :
    (∀ body rest,
      parse link (body ++ '\n' :: rest) =
        parse link body ++ (parse link rest).filter
          (·.keyText ∉ (parse link body).map Node.keyText)) ∧
    (∀ body line rest,
      IsLine line →
      readLine link line = none →
      parse link (body ++ '\n' :: (line ++ '\n' :: rest)) = parse link (body ++ '\n' :: rest)) ∧
    (∀ body line rest node,
      IsLine line →
      readLine link line = some node →
      node.keyText ∉ (parse link body).map Node.keyText →
      node ∈ parse link (body ++ '\n' :: (line ++ '\n' :: rest))) ∧
    ∀ body,
      ((parse link body).map Node.keyText).Nodup ∧
      parse link body <+ (lineSequence body).filterMap (readLine link) := by
  refine ⟨parse_append, ?_, ?_, fun body => ?_⟩
  · intro body line rest hLine hNone
    have hEmpty : parse link line = [] := by
      rw [parse, lineSequence_of_isLine hLine, filterMap_cons_none hNone]
      rfl
    rw [parse_append, parse_append line, hEmpty, parse_append]
    simp
  · intro body line rest node hLine hSome hNew
    have hNode : parse link line = [node] := by
      rw [parse, lineSequence_of_isLine hLine, filterMap_cons_some hSome]
      rfl
    rw [parse_append, parse_append line, hNode, mem_append, mem_filter]
    exact .inr ⟨by simp, decide_eq_true hNew⟩
  · have hFirsts := firsts_nil Node.keyText ((lineSequence body).filterMap (readLine link))
    exact ⟨hFirsts.nodup, hFirsts.sublist⟩

/- A link for each of two letters. -/
def twoLinks (text : Text) : Except Unit (Option Node) :=
  if text = ['a'] then .ok (some sampleWinner)
  else if text = ['b'] then .ok (some otherNode) else .error ()

/- A line between two links that is none is skipped, and the second link is read. -/
theorem noise_is_skipped :
    parse twoLinks "a\n?\nb".toList = parse twoLinks "a\nb".toList ∧
    otherNode ∈ parse twoLinks "a\nb\n".toList :=
  ⟨(parsing_is_local twoLinks).2.1 ['a'] ['?'] ['b'] ⟨by decide, by decide⟩
    (by decide +kernel),
    (parsing_is_local twoLinks).2.2.1 ['a'] ['b'] [] otherNode ⟨by decide, by decide⟩
      (by decide +kernel) (by decide +kernel)⟩

end Parsing

-- Configurations

/- What `JSONObject` takes for an object. -/
variable (isObject : String → Bool)

/- `outbound`, as far as it can throw. -/
def outbound (node : Node) : Option Node :=
  if node.finalMask ≠ "" ∧ isObject node.finalMask = false then none else some node

def buildProbe (nodes : List Node) (basePort : Nat) : Option ProbeConfig :=
  (nodes.mapM (outbound isObject)).map (probeConfig · basePort)

/- The races of `start`, with `none` for an exception. -/
def Call.races (call : Call) : List Nat → Option (Option Node)
| [] => some none
| slice :: rest =>
  let candidates := call.slice slice
  if candidates.isEmpty then some none
  else
    match buildProbe isObject (xrayCandidates candidates) probeBasePort with
    | none => none
    | some _ =>
      match call.sliceWinner slice candidates with
      | some winner => some (some winner)
      | none => call.races rest

def Call.Survives (call : Call) : Prop := call.races isObject (range maxRaceSlices) ≠ none

variable {isObject}

/- An outbound can be built from the node. -/
def Node.Built (isObject : String → Bool) (node : Node) : Prop :=
  node.isAnytls = true ∨ node.finalMask = "" ∨ isObject node.finalMask = true

lemma outbound_eq (node : Node) (hXray : node.isAnytls = false) :
  outbound isObject node = some node ↔ node.Built isObject := by
  unfold outbound Node.Built
  rw [hXray]
  split
  next hBroken => simp [hBroken.1, hBroken.2]
  next hFine =>
    refine iff_of_true rfl (.inr ?_)
    by_contra hNot
    rw [not_or, Bool.not_eq_true] at hNot
    exact hFine hNot

lemma buildProbe_isSome_iff (candidates : List Node) (basePort : Nat) :
  (buildProbe isObject (xrayCandidates candidates) basePort).isSome = true ↔
    ∀ node ∈ candidates, node.Built isObject := by
  rw [buildProbe, Option.isSome_map]
  induction candidates with
  | nil => simp [xrayCandidates]
  | cons node rest ih =>
    rw [forall_mem_cons, ← ih, xrayCandidates, filter_cons]
    cases hXray : node.isAnytls with
    | true =>
      have hBuilt : node.Built isObject := .inl hXray
      simp [hBuilt, xrayCandidates]
    | false =>
      have hOutbound := @outbound_eq isObject node hXray
      rw [Bool.not_false, if_pos rfl, mapM_cons]
      cases hNode : outbound isObject node with
      | none => simp [← hOutbound, hNode]
      | some built =>
        have hSame : built = node := by
          unfold outbound at hNode
          split at hNode
          · cases hNode
          · exact (Option.some.inj hNode).symm
        subst hSame
        rw [← hOutbound, hNode]
        cases hRest : (xrayCandidates rest).mapM (outbound isObject) with
        | none | some => simp [xrayCandidates] at hRest ⊢; simp [hRest]

/- No slice in front is empty or has an answer. -/
def Call.Raced (call : Call) (slice : Nat) : Prop :=
  ∀ earlier < slice, call.slice earlier ≠ [] ∧ call.answers earlier = []

lemma races_ne_none_iff {call : Call} (first count : Nat) :
  call.races isObject (range' first count) ≠ none ↔
    ∀ slice, first ≤ slice → slice < first + count →
      (∀ earlier, first ≤ earlier → earlier < slice →
        call.slice earlier ≠ [] ∧ call.answers earlier = []) →
      ∀ node ∈ call.slice slice, node.Built isObject := by
  induction count generalizing first with
  | zero =>
    refine iff_of_true (by simp [Call.races]) fun slice hFirst hLast => ?_
    omega
  | succ count ih =>
    rw [range'_succ, Call.races]
    by_cases hEmpty : call.slice first = []
    · rw [hEmpty, isEmpty_nil, if_pos rfl]
      refine iff_of_true (by simp) fun slice hFirst _ _ node hNode => ?_
      rw [slice_nil_of_le hEmpty hFirst] at hNode
      cases hNode
    · rw [if_neg (by simpa using hEmpty), sliceWinner_eq]
      have hBuilt := @buildProbe_isSome_iff isObject (call.slice first) probeBasePort
      cases hProbe : buildProbe isObject (xrayCandidates (call.slice first)) probeBasePort with
      | none =>
        refine iff_of_false (by simp) fun hAll => ?_
        have hFirst := hAll first le_rfl (by omega) fun earlier hFrom hTo => by omega
        rw [← hBuilt, hProbe] at hFirst
        cases hFirst
      | some config =>
        rw [hProbe] at hBuilt
        have hHere := hBuilt.mp rfl
        cases hAnswers : call.answers first with
        | cons winner rest =>
          refine iff_of_true (by simp) fun slice hFirst hLast hRaced => ?_
          by_cases hSame : slice = first
          · rw [hSame]
            exact hHere
          · have hNone := (hRaced first le_rfl (by omega)).2
            rw [hAnswers] at hNone
            cases hNone
        | nil =>
          simp only [head?_nil]
          rw [ih]
          constructor
          · intro hAll slice hFirst hLast hRaced
            by_cases hSame : slice = first
            · rw [hSame]
              exact hHere
            · exact hAll slice (by omega) (by omega)
                fun earlier hFrom hTo => hRaced earlier (by omega) hTo
          · intro hAll slice hFirst hLast hRaced
            refine hAll slice (by omega) (by omega) fun earlier hFrom hTo => ?_
            by_cases hSame : earlier = first
            · rw [hSame]
              exact ⟨hEmpty, hAnswers⟩
            · exact hRaced earlier (by omega) hTo

/-
  No exception leaves a start if and only if an outbound can be built from every node up to the
  first slice with an answer.
-/
theorem start_survives_iff
    (isObject : String → Bool)
    (call : Call) :
    call.Survives isObject ↔
    ∀ slice < maxRaceSlices, call.Raced slice →
      ∀ node ∈ call.slice slice, node.Built isObject := by
  rw [Call.Survives, range_eq_range', races_ne_none_iff]
  simp [Call.Raced]

/- The first node would win alone; the mask of the second is no object. -/
theorem one_mask_stops_start :
    ∃ call : Call, ∃ node ∈ call.ranked,
      Call.races (fun _ => false) { call with ranked := [node] } (range maxRaceSlices) =
        some (some node) ∧
      ¬ call.Survives fun _ => false := by
  refine ⟨{ sampleCall with ranked := [sampleWinner, { otherNode with finalMask := "x" }] },
    sampleWinner, by simp, ?_⟩
  unfold Call.Survives
  decide +kernel

end Kourosh.Shard
