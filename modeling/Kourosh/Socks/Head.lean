import Kourosh.Socks.Fidelity

/-
  The head of an HTTP request, read off a socket in chunks.

  Each read looks for the end of the head in the new bytes and the last three before them.

  Correctness is proven by:
    * `head_reading_is_chunk_independent`
-/

-- Reads

namespace Kourosh.Socks

open List Client

def httpHeadLimit : Nat := 16 * 1024

def httpChunk : Nat := 2048

variable {client client' : Client} {buffer pos : Nat}
variable {bytes head line rest stream : Bytes} {byte : UInt8}

section

variable (hRead : client.read buffer = some (bytes, client'))

include hRead

/- A read takes what fits from the front of the stream, and nothing is not read. -/
lemma Client.read_spec : client.unread = bytes ++ client'.unread ∧
  client'.writes = client.writes ∧ bytes.length ≤ buffer ∧ (0 < buffer → bytes ≠ []) := by
  unfold read at hRead
  split at hRead
  · cases hRead
  next chunk reads hReads =>
    cases hRead
    refine ⟨?_, rfl, length_take_le _ _, fun _ hNil => ?_⟩
    · simp only [unread, flatten_unreadChunk, hReads, map_cons, flatten_cons]
      rw [← append_assoc, take_append_drop]
    · rcases take_eq_nil_iff.mp hNil with _ | hEmpty
      · omega
      · exact chunk.property hEmpty

lemma Client.unread_lt_of_read (hBuffer : 0 < buffer) :
  client'.unread.length < client.unread.length := by
  rcases read_spec hRead with ⟨hUnread, -, -, hSome⟩
  have hPos := length_pos_iff.mpr (hSome hBuffer)
  rw [hUnread, length_append]
  omega

end

/- The loop of `read_head`, and the client when it is left. -/
def readHeadKeeping (head : Bytes) (searched : Nat) (client : Client) :
  Except AetherError (Bytes × Bytes) × Client :=
  match _hRead : client.read httpChunk with
  | none => (.error (.other "the http client closed before sending a request"), client)
  | some (bytes, client') =>
    let start := searched - 3
    match findHeadEnd ((head ++ bytes).drop start) with
    | some pos =>
      (.ok ((head ++ bytes).take (start + pos), (head ++ bytes).drop (start + pos)), client')
    | none =>
      if (head ++ bytes).length > httpHeadLimit then
        (.error (.other "http request head too large"), client')
      else readHeadKeeping (head ++ bytes) (head ++ bytes).length client'
termination_by client.unread.length
decreasing_by exact Client.unread_lt_of_read _hRead (by decide)

/- The head, what was read behind it, and the client then. -/
def readHeadFrom (head : Bytes) (searched : Nat) (client : Client) :
  Except AetherError (Bytes × Bytes × Client) :=
  match readHeadKeeping head searched client with
  | (result, after) => result.map fun found => (found.1, found.2, after)

def readHead (client : Client) :
  Except AetherError (Bytes × Bytes × Client) := readHeadFrom [] 0 client

-- The End Of A Head

def headEnd : Bytes := [13, 10, 13, 10]

lemma window_eq (bytes : Bytes) :
  (bytes.take 4 == [13, 10, 13, 10]) = decide (headEnd <+: bytes) := by
  rw [Bool.eq_iff_iff, beq_iff_eq, decide_eq_true_iff, prefix_iff_eq_take]
  exact eq_comm

lemma findHeadEnd_cons (byte : UInt8) (rest : Bytes) : findHeadEnd (byte :: rest) =
  if headEnd <+: byte :: rest then some 4
  else (findHeadEnd rest).map (· + 1) := by
  by_cases hShort : rest.length < 3
  · have hNone : ¬ headEnd <+: byte :: rest := by
      intro hFront
      have hLength := hFront.length_le
      simp only [headEnd, length_cons, length_nil] at hLength
      omega
    have hZero : rest.length + 1 + 1 - 4 = 0 := by omega
    have hZero' : rest.length + 1 - 4 = 0 := by omega
    rw [if_neg hNone]
    simp [findHeadEnd, hZero, hZero']
  · have hSucc : (byte :: rest).length + 1 - 4 = rest.length + 1 - 4 + 1 := by
      simp only [length_cons]
      omega
    unfold findHeadEnd
    rw [hSucc, range_succ_eq_map, find?_cons, window_eq, drop_zero]
    by_cases hFront : headEnd <+: byte :: rest
    · simp [hFront]
    · simp only [hFront, decide_false, if_false, find?_map, Option.map_map]
      rfl

def FirstEnd (stream : Bytes) (e : Nat) : Prop :=
  ∃ pos, e = pos + 4 ∧ headEnd <+: stream.drop pos ∧
    ∀ before < pos, ¬ headEnd <+: stream.drop before

lemma findHeadEnd_eq_some_iff {e : Nat} : findHeadEnd stream = some e ↔ FirstEnd stream e := by
  have hInside (pos : Nat) (hFront : headEnd <+: stream.drop pos) :
    pos ∈ List.range (stream.length + 1 - 4) := by
    have hLength := hFront.length_le
    simp only [headEnd, length_cons, length_nil, length_drop] at hLength
    rw [mem_range]
    omega
  simp only [findHeadEnd, window_eq, Option.map_eq_some_iff, find?_range_eq_some,
    FirstEnd, decide_eq_true_eq, Bool.not_eq_true', decide_eq_false_iff_not]
  refine exists_congr fun pos => ?_
  constructor
  · rintro ⟨⟨hFront, -, hFirst⟩, rfl⟩
    exact ⟨rfl, hFront, hFirst⟩
  · rintro ⟨rfl, hFront, hFirst⟩
    exact ⟨⟨hFront, hInside pos hFront, hFirst⟩, rfl⟩

section

variable {buffer : Bytes}

lemma bounds_of_findHeadEnd (hFound : findHeadEnd buffer = some pos) : 4 ≤ pos ∧ pos ≤ buffer.length := by
  rcases findHeadEnd_eq_some_iff.mp hFound with ⟨start, rfl, hFront, -⟩
  have hLength := hFront.length_le
  simp only [headEnd, length_cons, length_nil, length_drop] at hLength
  omega

lemma headEnd_drop_append (more : Bytes) (hInside : pos + 4 ≤ buffer.length) :
  headEnd <+: (buffer ++ more).drop pos ↔ headEnd <+: buffer.drop pos := by
  rw [drop_append_of_le_length (by omega)]
  have hLength : headEnd.length ≤ (buffer.drop pos).length := by
    simp only [headEnd, length_cons, length_nil, length_drop]
    omega
  constructor
  · intro hBoth
    exact prefix_of_prefix_length_le hBoth (prefix_append _ _) hLength
  · intro hFirst
    exact hFirst.trans (prefix_append _ _)

lemma findHeadEnd_append_iff (more : Bytes) (hInside : pos ≤ buffer.length) :
  findHeadEnd (buffer ++ more) = some pos ↔ findHeadEnd buffer = some pos := by
  simp only [findHeadEnd_eq_some_iff, FirstEnd]
  refine exists_congr fun start => and_congr_right fun hPos => ?_
  have hSame (before : Nat) (hLe : before ≤ start) :
    headEnd <+: (buffer ++ more).drop before ↔ headEnd <+: buffer.drop before :=
    headEnd_drop_append more (by omega)
  refine and_congr (hSame start le_rfl) (forall₂_congr fun before hLt => ?_)
  rw [hSame before hLt.le]

end

lemma findHeadEnd_overlap (hNone : findHeadEnd head = none) (bytes : Bytes) : findHeadEnd (head ++
  bytes) = (findHeadEnd ((head ++ bytes).drop (head.length - 3))).map (head.length - 3 + ·) := by
  induction head with
  | nil => simp
  | cons byte rest ih =>
    by_cases hShort : rest.length < 3
    · have hZero : (byte :: rest).length - 3 = 0 := by
        simp only [length_cons]
        omega
      rw [hZero, drop_zero]
      simp
    · have hSame : headEnd <+: byte :: (rest ++ bytes) ↔ headEnd <+: byte :: rest :=
        @headEnd_drop_append 0 (byte :: rest) bytes (by rw [length_cons]; omega)
      rw [findHeadEnd_cons] at hNone
      split at hNone
      · cases hNone
      next hFront =>
        have hDrop : (byte :: rest).length - 3 = rest.length - 3 + 1 := by
          simp only [length_cons]
          omega
        rw [hDrop, cons_append, drop_succ_cons, findHeadEnd_cons, if_neg (fun hBoth =>
          hFront (hSame.mp hBoth)), ih (Option.map_eq_none_iff.mp hNone), Option.map_map]
        congr 1
        funext pos
        simp only [Function.comp_apply]
        omega

-- Lines

def crlf : Bytes := [13, 10]

def encodeLines (lines : List Bytes) : Bytes := lines.flatMap (· ++ crlf)

attribute [local simp] encodeLines crlf

lemma not_headEnd_front (hByte : byte ≠ 13) (rest : Bytes) : ¬ headEnd <+: byte :: rest := by
  intro hFront
  exact hByte (cons_prefix_cons.mp hFront).1.symm

lemma findHeadEnd_of_not_mem (hLine : 13 ∉ line) (rest : Bytes) :
  findHeadEnd (line ++ rest) = (findHeadEnd rest).map (· + line.length) := by
  induction line with
  | nil => simp
  | cons byte line ih =>
    have hByte : byte ≠ 13 := by
      rintro rfl
      exact hLine mem_cons_self
    have hLine' : 13 ∉ line := fun hMem => hLine (mem_cons_of_mem byte hMem)
    rw [cons_append,
      findHeadEnd_cons, if_neg (not_headEnd_front hByte _), ih hLine', Option.map_map]
    congr 1

lemma findHeadEnd_crlf_cons (hByte : byte ≠ 13) (rest : Bytes) :
  findHeadEnd (13 :: 10 :: byte :: rest) = (findHeadEnd (byte :: rest)).map (· + 2) := by
  have hFirst : ¬ headEnd <+: 13 :: 10 :: byte :: rest := by
    intro hFront
    have hThird := (cons_prefix_cons.mp (cons_prefix_cons.mp (cons_prefix_cons.mp hFront).2).2).1
    exact hByte hThird.symm
  have hSecond : ¬ headEnd <+: 10 :: byte :: rest := not_headEnd_front (by decide) _
  rw [findHeadEnd_cons, if_neg hFirst, findHeadEnd_cons, if_neg hSecond, Option.map_map]
  rfl

lemma findHeadEnd_encodeLines {lines : List Bytes} (hLine : 13 ∉ line)
  (hLines : ∀ other ∈ lines, other ≠ [] ∧ 13 ∉ other) (more : Bytes) : findHeadEnd (encodeLines
  (line :: lines) ++ (crlf ++ more)) = some ((encodeLines (line :: lines)).length + 2) := by
  induction lines generalizing line with
  | nil =>
    have hBytes : encodeLines [line] ++ (crlf ++ more) = line ++ (headEnd ++ more) := by
      simp [headEnd]
    have hEnd : findHeadEnd (headEnd ++ more) = some 4 := by
      rw [headEnd, cons_append, findHeadEnd_cons]
      exact if_pos (prefix_append headEnd more)
    rw [hBytes, findHeadEnd_of_not_mem hLine, hEnd]
    simp
    omega
  | cons next lines ih =>
    have hNext := hLines next mem_cons_self
    have hRest : ∀ other ∈ lines, other ≠ [] ∧ 13 ∉ other :=
      fun other hMem => hLines other (mem_cons_of_mem next hMem)
    have hFound := ih hNext.2 hRest
    have hBytes : encodeLines (line :: next :: lines) ++
      (crlf ++ more) = line ++ (13 :: 10 :: (encodeLines (next :: lines) ++ (crlf ++ more))) := by
      simp
    have hLength : (encodeLines (line :: next :: lines)).length =
      (encodeLines (next :: lines)).length + 2 + line.length := by
      simp
      omega
    rw [hBytes, hLength, findHeadEnd_of_not_mem hLine]
    cases next with
    | nil => exact absurd rfl hNext.1
    | cons byte next =>
      have hByte : byte ≠ 13 := by
        rintro rfl
        exact hNext.2 mem_cons_self
      have hCrlf :=
        findHeadEnd_crlf_cons hByte (next ++ crlf ++ encodeLines lines ++ (crlf ++ more))
      have hShape : encodeLines ((byte :: next) :: lines) ++
        (crlf ++ more) = byte :: (next ++ crlf ++ encodeLines lines ++ (crlf ++ more)) := by
        simp
      rw [hShape] at hFound ⊢
      rw [hCrlf, hFound]
      simp only [Option.map_some, Option.some.injEq]
      omega

-- Heads

/-
  A head off a stream, what was read behind it, and the client then, which takes as many writes as
  before.
-/
structure HeadOf (stream : Bytes) (writes : Option Nat) (head pipelined : Bytes)
  (client : Client) : Prop where
  ends : findHeadEnd stream = some head.length
  stream_eq : stream = head ++ (pipelined ++ client.unread)
  fits : head.length ≤ httpHeadLimit + httpChunk
  writes_eq : client.writes = writes

lemma headOf_take {buffer : Bytes} (client : Client)
  (hFound : findHeadEnd buffer = some pos) (hFits : buffer.length ≤ httpHeadLimit + httpChunk) :
  HeadOf (buffer ++ client.unread) client.writes (buffer.take pos) (buffer.drop pos) client := by
  have hInside := (bounds_of_findHeadEnd hFound).2
  have hLength : (buffer.take pos).length = pos := by
    rw [length_take]
    omega
  refine ⟨?_, ?_, ?_, rfl⟩
  · rw [hLength]
    exact (findHeadEnd_append_iff _ hInside).mpr hFound
  · rw [← append_assoc, take_append_drop]
  · omega

lemma readHeadKeeping_of_read {searched : Nat}
  (hBytes : client.read httpChunk = some (bytes, client')) :
  readHeadKeeping head searched client =
    match findHeadEnd ((head ++ bytes).drop (searched - 3)) with
    | some pos =>
      (.ok ((head ++ bytes).take (searched - 3 + pos),
        (head ++ bytes).drop (searched - 3 + pos)), client')
    | none =>
      if (head ++ bytes).length > httpHeadLimit then
        (.error (.other "http request head too large"), client')
      else readHeadKeeping (head ++ bytes) (head ++ bytes).length client' := by
  rw [readHeadKeeping]
  split
  next hEnd =>
    rw [hBytes] at hEnd
    cases hEnd
  next hRead =>
    rw [hBytes] at hRead
    cases hRead
    rfl

lemma readHeadFrom_of_read (hNone : findHeadEnd head = none)
  (hBytes : client.read httpChunk = some (bytes, client')) :
  readHeadFrom head head.length client = match findHeadEnd (head ++ bytes) with
    | some pos => .ok ((head ++ bytes).take pos, (head ++ bytes).drop pos, client')
    | none =>
      if (head ++ bytes).length > httpHeadLimit then .error (.other "http request head too large")
      else readHeadFrom (head ++ bytes) (head ++ bytes).length client' := by
  rw [findHeadEnd_overlap hNone bytes, readHeadFrom]
  cases hEnd : findHeadEnd ((head ++ bytes).drop (head.length - 3)) with
  | some =>
    rw [readHeadKeeping_of_read hBytes, hEnd]
    rfl
  | none =>
    rw [readHeadKeeping_of_read hBytes, hEnd]
    simp only
    split <;> rfl

/- What was read is the front of the stream. -/
lemma readHeadKeeping_spec (hNone : findHeadEnd head = none)
  (hFits : head.length ≤ httpHeadLimit) : ∃ consumed result after,
  readHeadKeeping head head.length client = (result, after) ∧ client.unread =
  consumed ++ after.unread ∧ after.writes = client.writes ∧
  (head ++ consumed).length ≤ httpHeadLimit + httpChunk ∧
  ((∃ pos, findHeadEnd (head ++ consumed) = some pos ∧ result = .ok ((head ++ consumed).take pos,
  (head ++ consumed).drop pos)) ∨ (findHeadEnd (head ++ consumed) = none ∧ (∃ error,
  result = .error error) ∧ (after.unread = [] ∨ httpHeadLimit < (head ++ consumed).length))) := by
  induction hSize : client.unread.length using Nat.strong_induction_on generalizing head client with
  | _ size ih =>
    rw [readHeadKeeping]
    split
    next hRead =>
      refine ⟨[], _, client, rfl, rfl, rfl, ?_, .inr ⟨?_, ⟨_, rfl⟩, .inl ?_⟩⟩
      · rw [append_nil]
        omega
      · rw [append_nil]
        exact hNone
      · unfold Client.read at hRead
        split at hRead
        next hReads =>
          rw [unread, hReads]
          rfl
        · cases hRead
    next bytes next hRead =>
      rcases read_spec hRead with ⟨hStream, hWrites, hShort, -⟩
      have hLength : (head ++ bytes).length ≤ httpHeadLimit + httpChunk := by
        rw [length_append]
        omega
      have hOverlap := findHeadEnd_overlap hNone bytes
      simp only
      split
      next pos hEnd =>
        rw [hEnd] at hOverlap
        exact ⟨bytes, _, next, rfl, hStream, hWrites, hLength, .inl ⟨_, hOverlap, rfl⟩⟩
      next hEnd =>
        rw [hEnd] at hOverlap
        split
        next hLong =>
          exact ⟨bytes, _, next, rfl, hStream, hWrites, hLength, .inr ⟨hOverlap, ⟨_, rfl⟩, .inr hLong⟩⟩
        next hInside =>
          have hLess : next.unread.length < size := hSize ▸ unread_lt_of_read hRead (by decide)
          rcases ih _ hLess hOverlap (Nat.le_of_not_lt hInside) rfl with
            ⟨more, result, after, hRest, hUnread, hKept, hSpec⟩
          rw [append_assoc] at hSpec
          refine ⟨bytes ++ more, result, after, hRest, ?_, hKept.trans hWrites, hSpec⟩
          rw [hStream, hUnread, append_assoc]

lemma readHead_spec {pipelined : Bytes} (hRead : readHead client = .ok (head, pipelined, client')) :
  HeadOf client.unread client.writes head pipelined client' := by
  have hNone : findHeadEnd [] = none := rfl
  rcases @readHeadKeeping_spec client [] hNone (Nat.zero_le _) with
    ⟨consumed, result, after, hLoop, hUnread, hWrites, hLength, hFound⟩
  simp only [nil_append, length_nil] at hLoop hLength hFound
  rw [readHead, readHeadFrom, hLoop] at hRead
  rcases hFound with ⟨pos, hPos, rfl⟩ | ⟨-, ⟨error, rfl⟩, -⟩
  · cases hRead
    rw [hUnread, ← hWrites]
    exact headOf_take _ hPos hLength
  · cases hRead

/-
  However a stream is cut, what is consumed is bounded, a head within the limit is split off
  exactly, and nothing is found where there is no empty line.
-/
theorem head_reading_is_chunk_independent
    (client : Client) :
    ∃ consumed result after,
      readHeadKeeping [] 0 client = (result, after) ∧
      readHead client = result.map (fun found => (found.1, found.2, after)) ∧
      client.unread = consumed ++ after.unread ∧
      consumed.length ≤ httpHeadLimit + httpChunk ∧
      (∀ e,
        FirstEnd client.unread e →
        e ≤ httpHeadLimit →
        e ≤ consumed.length ∧ result = .ok (client.unread.take e, consumed.drop e)) ∧
      (∀ head pipelined, result = .ok (head, pipelined) → head ++ pipelined = consumed) ∧
      (¬ headEnd <:+: consumed → ∃ error, result = .error error) := by
  have hNone : findHeadEnd [] = none := rfl
  rcases @readHeadKeeping_spec client [] hNone (Nat.zero_le _) with
    ⟨consumed, result, after, hLoop, hUnread, -, hLength, hFound⟩
  simp only [nil_append, length_nil] at hLoop hLength hFound
  refine ⟨consumed, result, after, hLoop, ?_, hUnread, hLength, ?_, ?_, ?_⟩
  · rw [readHead, readHeadFrom, hLoop]
  · intro e hFirst hLimit
    rw [← findHeadEnd_eq_some_iff] at hFirst
    -- the end is in what was consumed, so it was seen
    have hBefore : e ≤ consumed.length := by
      rcases hFound with ⟨pos, hPos, -⟩ | ⟨hNo, -, hAll | _⟩
      · have hBounds := (bounds_of_findHeadEnd hPos).2
        have hSame := (findHeadEnd_append_iff after.unread hBounds).mpr hPos
        rw [← hUnread, hFirst] at hSame
        cases hSame
        exact hBounds
      · rw [hUnread, hAll, append_nil, hNo] at hFirst
        cases hFirst
      · omega
    rw [hUnread, findHeadEnd_append_iff _ hBefore] at hFirst
    rcases hFound with ⟨pos, hPos, hOk⟩ | ⟨hNo, -, -⟩
    · rw [hFirst] at hPos
      cases hPos
      rw [hUnread, take_append_of_le_length hBefore]
      exact ⟨hBefore, hOk⟩
    · rw [hFirst] at hNo
      cases hNo
  · rintro head pipelined rfl
    rcases hFound with ⟨pos, -, hOk⟩ | ⟨-, ⟨error, hError⟩, -⟩
    · cases hOk
      exact take_append_drop pos consumed
    · cases hError
  · intro hNowhere
    rcases hFound with ⟨pos, hPos, -⟩ | ⟨-, hError, -⟩
    · rcases findHeadEnd_eq_some_iff.mp hPos with ⟨start, -, hFront, -⟩
      exact absurd (hFront.isInfix.trans (drop_suffix _ _).isInfix) hNowhere
    · exact hError

def Client.atOnce (stream : Bytes) : Client where
  reads := Client.unreadChunk stream []
  received := []
  writes := none

lemma Client.unread_atOnce (stream : Bytes) : (atOnce stream).unread = stream := by
  rw [unread, atOnce, flatten_unreadChunk]
  simp

lemma Client.read_atOnce (hStream : stream ≠ []) (buffer : Nat) : (atOnce stream).read
  buffer = some (stream.take buffer, atOnce (stream.drop buffer)) := by
  unfold read atOnce unreadChunk
  rw [dif_pos hStream]

/-
  A head that fits is found in a stream that is there at once: the limit is a whole number of
  reads.
-/
lemma readHeadFrom_atOnce {chunks : Nat}
  (hNone : findHeadEnd head = none) (hFound : findHeadEnd (head ++ rest) = some pos)
  (hFits : pos ≤ httpHeadLimit + httpChunk) (hChunks : head.length = httpChunk * chunks) :
  ∃ found, readHeadFrom head head.length (.atOnce rest) = .ok found := by
  induction hSize : rest.length using Nat.strong_induction_on generalizing head rest chunks with
  | _ _ ih =>
    have hRest : rest ≠ [] := by
      rintro rfl
      rw [append_nil, hNone] at hFound
      cases hFound
    have hStream : head ++ rest.take httpChunk ++ rest.drop httpChunk = head ++ rest := by
      rw [append_assoc, take_append_drop]
    rw [readHeadFrom_of_read hNone (read_atOnce hRest httpChunk)]
    cases hEnd : findHeadEnd (head ++ rest.take httpChunk) with
    | some => exact ⟨_, rfl⟩
    | none =>
      have hBefore : (head ++ rest.take httpChunk).length < pos := by
        by_contra hBehind
        rw [← hStream, findHeadEnd_append_iff _ (Nat.le_of_not_lt hBehind), hEnd] at hFound
        cases hFound
      have hLong : httpChunk < rest.length := by
        have hLe := (bounds_of_findHeadEnd hFound).2
        simp only [length_append, length_take] at hBefore hLe
        omega
      have hLength : (head ++ rest.take httpChunk).length = httpChunk * (chunks + 1) := by
        rw [length_append, length_take, hChunks, Nat.mul_succ]
        omega
      have hInside : ¬ (head ++ rest.take httpChunk).length > httpHeadLimit := by
        rw [hLength] at hBefore ⊢
        simp only [httpHeadLimit, httpChunk] at hBefore hFits ⊢
        omega
      simp only
      rw [if_neg hInside]
      refine ih (rest.drop httpChunk).length ?_ hEnd ?_ hLength rfl
      · have hPositive : 0 < httpChunk := by decide
        rw [length_drop]
        omega
      · rw [hStream]
        exact hFound

lemma readHead_atOnce (hFound : findHeadEnd stream = some pos)
  (hFits : pos ≤ httpHeadLimit + httpChunk) : ∃ found, readHead (.atOnce stream) = .ok found := by
  have hNone : findHeadEnd [] = none := rfl
  have hChunks : ([] : Bytes).length = httpChunk * 0 := rfl
  exact readHeadFrom_atOnce hNone hFound hFits hChunks

end Kourosh.Socks
