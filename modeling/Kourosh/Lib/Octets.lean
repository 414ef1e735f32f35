import Mathlib.Data.List.Basic
import Mathlib.Tactic.Ring

/-
  A read cursor over a byte string, and the variable-length integers of RFC 9000.

  The cursor holds the bytes not read yet and the number of bytes read.

  Main declarations
    * `Octets` : the cursor
    * `Octets.Reads` : a read that takes a front and does not look behind it
    * `varintBytes` : an integer in a given width

  Correctness is proven by:
    * `Octets.getVarint_varintBytes`
    * `Octets.exists_varintBytes`
-/

-- Big-Endian Numbers

def beNat (bytes : List UInt8) : Nat := bytes.foldl (fun acc byte => acc * 256 + byte.toNat) 0

/- The `n` low bytes of a number, most significant first. -/
def beBytes : Nat → Nat → List UInt8
| 0, _ => []
| n + 1, v => UInt8.ofNat (v / 256 ^ n) :: beBytes n v

@[simp] lemma length_beBytes (n v : Nat) : (beBytes n v).length = n := by
  induction n with
  | zero => rfl
  | succ n ih => simp [beBytes, ih]

lemma foldl_be (bytes : List UInt8) (acc : Nat) : bytes.foldl
  (fun acc byte => acc * 256 + byte.toNat) acc = acc * 256 ^ bytes.length + beNat bytes := by
  induction bytes generalizing acc with
  | nil => simp [beNat]
  | cons byte _ ih =>
    have hTail := ih byte.toNat
    simp only [beNat, List.foldl_cons, Nat.zero_mul, Nat.zero_add, List.length_cons] at hTail ⊢
    rw [ih, hTail, pow_succ]
    simp only [beNat]
    ring

@[simp] lemma beNat_cons (byte : UInt8) (bytes : List UInt8) :
  beNat (byte :: bytes) = byte.toNat * 256 ^ bytes.length + beNat bytes := by
  have hFold := foldl_be bytes byte.toNat
  simpa [beNat] using hFold

lemma beNat_beBytes (n v : Nat) : beNat (beBytes n v) = v % 256 ^ n := by
  induction n with
  | zero => simp [beBytes, beNat, Nat.mod_one]
  | succ n ih =>
    have hByte : (UInt8.ofNat (v / 256 ^ n)).toNat = v / 256 ^ n % 256 := by simp
    rw [beBytes, beNat_cons, length_beBytes, ih, hByte, pow_succ, Nat.mod_mul]
    ring

lemma beNat_lt (bytes : List UInt8) : beNat bytes < 256 ^ bytes.length := by
  induction bytes with
  | nil => simp [beNat]
  | cons byte bytes ih =>
    have hByte := byte.toNat_lt
    have hTop : byte.toNat * 256 ^ bytes.length ≤ 255 * 256 ^ bytes.length :=
      Nat.mul_le_mul_right _ (by omega)
    rw [beNat_cons, List.length_cons, pow_succ]
    omega

/- Only the low bytes are written. -/
lemma beBytes_add (n a v : Nat) : beBytes n (a * 256 ^ n + v) = beBytes n v := by
  induction n generalizing a with
  | zero => rfl
  | succ n ih =>
    have hShift : a * 256 ^ (n + 1) = a * 256 * 256 ^ n := by ring
    have hTop : (a * 256 * 256 ^ n + v) / 256 ^ n = a * 256 + v / 256 ^ n := by
      rw [Nat.add_comm, Nat.add_mul_div_right _ _ (Nat.pow_pos (by decide)), Nat.add_comm]
    have hByte : UInt8.ofNat (a * 256 + v / 256 ^ n) = UInt8.ofNat (v / 256 ^ n) := by
      apply UInt8.toNat_inj.mp
      simp
    rw [beBytes, hShift, hTop, hByte, ih, beBytes]

lemma beBytes_beNat (bytes : List UInt8) : beBytes bytes.length (beNat bytes) = bytes := by
  induction bytes with
  | nil => rfl
  | cons byte bytes ih =>
    have hTop : (byte.toNat * 256 ^ bytes.length + beNat bytes) / 256 ^ bytes.length =
        byte.toNat := by
      rw [Nat.add_comm, Nat.add_mul_div_right _ _ (Nat.pow_pos (by decide)),
        Nat.div_eq_of_lt (beNat_lt bytes), Nat.zero_add]
    rw [beNat_cons, List.length_cons, beBytes, hTop, beBytes_add, ih, UInt8.ofNat_toNat]

-- The Cursor

structure Octets where
  rest : List UInt8
  off : Nat

namespace Octets

open List

def withSlice (buf : List UInt8) : Octets where
  rest := buf
  off := 0

def cap (b : Octets) : Nat := b.rest.length

@[simp] lemma cap_mk (rest : List UInt8) (off : Nat) : (Octets.mk rest off).cap = rest.length := rfl

/- Read `len` bytes. -/
def getBytes (b : Octets) (len : Nat) : Option (List UInt8 × Octets) :=
  if b.cap < len then none
  else some (b.rest.take len, ⟨b.rest.drop len, b.off + len⟩)

def getU8 (b : Octets) : Option (UInt8 × Octets) :=
  match b.rest with
  | [] => none
  | byte :: rest => some (byte, ⟨rest, b.off + 1⟩)

def varintParseLen (first : UInt8) : Nat :=
  match first.toNat / 64 with
  | 0 => 1
  | 1 => 2
  | 2 => 4
  | _ => 8

/- Read a variable-length integer. -/
def getVarint (b : Octets) : Option (Nat × Octets) :=
  match b.rest with
  | [] => none
  | first :: _ =>
    let len := varintParseLen first
    if len > b.cap then none
    else some (beNat (b.rest.take len) % 2 ^ (8 * len - 2), ⟨b.rest.drop len, b.off + len⟩)

-- Reads Of A Front

variable {α β : Type}

def Reads (get : Octets → Option (α × Octets)) : Prop :=
  ∀ (b b' : Octets) (v : α), get b = some (v, b') →
    ∃ front, b.rest = front ++ b'.rest ∧ b'.off = b.off + front.length ∧
    ∀ more off, get ⟨front ++ more, off⟩ = some (v, ⟨more, off + front.length⟩)

def andThen (get : Octets → Option (α × Octets))
  (cont : α → Octets → Option (β × Octets)) (b : Octets) : Option (β × Octets) :=
  (get b).bind fun answer => cont answer.1 answer.2

variable {get : Octets → Option (α × Octets)} {b b' : Octets}

lemma Reads.andThen {cont : α → Octets → Option (β × Octets)}
  (hGet : Reads get) (hCont : ∀ v, Reads (cont v)) : Reads (andThen get cont) := by
  intro b b'' w hRead
  rcases Option.bind_eq_some_iff.mp hRead with ⟨⟨v, b'⟩, hFirst, hSecond⟩
  rcases hGet _ _ _ hFirst with ⟨front, hRest, hOff, hMore⟩
  rcases hCont v _ _ _ hSecond with ⟨front', hRest', hOff', hMore'⟩
  refine ⟨front ++ front', ?_, ?_, ?_⟩
  · rw [hRest, hRest', append_assoc]
  · rw [hOff', hOff, length_append]
    omega
  · intro more off
    simp only [Octets.andThen, append_assoc, hMore, Option.bind_some, hMore', length_append]
    congr 3
    omega

lemma Reads.pure (v : α) : Reads fun b => some (v, b) := by
  intro b b' w hRead
  cases hRead
  exact ⟨[], by simp⟩

lemma getBytes_reads (len : Nat) : Reads fun b => b.getBytes len := by
  intro b b' v hRead
  simp only [getBytes] at hRead
  split at hRead
  · cases hRead
  next hCap =>
    cases hRead
    have hTake : (b.rest.take len).length = len := length_take_of_le (by simpa [cap] using hCap)
    refine ⟨b.rest.take len, (take_append_drop len b.rest).symm, ?_, ?_⟩
    · simp [hTake]
    · intro more off
      simp [getBytes, cap, take_left' hTake, drop_left' hTake, hTake]

lemma varintParseLen_pos (first : UInt8) : 0 < varintParseLen first := by
  unfold varintParseLen
  split <;> omega

lemma getVarint_reads : Reads getVarint := by
  intro b b' v hRead
  unfold getVarint at hRead
  split at hRead
  · cases hRead
  next first tail hRest =>
    simp only at hRead
    split at hRead
    · cases hRead
    next hCap =>
      cases hRead
      -- the first byte stays in front, so the length is reread
      have hTake : (b.rest.take (varintParseLen first)).length = varintParseLen first :=
        length_take_of_le (by simpa [cap] using hCap)
      have hPos := varintParseLen_pos first
      refine ⟨b.rest.take (varintParseLen first), (take_append_drop _ b.rest).symm, ?_, ?_⟩
      · simp [hTake]
      · intro more off
        rcases Nat.exists_eq_succ_of_ne_zero (Nat.pos_iff_ne_zero.mp hPos) with ⟨n, hn⟩
        have hFront : b.rest.take (varintParseLen first) = first :: tail.take n := by
          rw [hRest, hn, take_succ_cons]
        have hTail : (tail.take n).length = n := by
          rw [hFront, hn] at hTake
          simpa using hTake
        rw [hFront]
        simp [getVarint, cap, hn, hTail, take_left' hTail, drop_left' hTail]

lemma varintParseLen_le (first : UInt8) : varintParseLen first ≤ 8 := by
  unfold varintParseLen
  split <;> omega

lemma getVarint_lt {v : Nat} (hRead : b.getVarint = some (v, b')) : v < 2 ^ 62 := by
  unfold getVarint at hRead
  split at hRead
  · cases hRead
  next first _ _ =>
    simp only at hRead
    split at hRead
    · cases hRead
    · cases hRead
      have hLe := varintParseLen_le first
      exact Nat.lt_of_lt_of_le (Nat.mod_lt _ (Nat.two_pow_pos _))
        (Nat.pow_le_pow_right (by omega) (by omega))

lemma Reads.cap_le (hGet : Reads get) {v : α} (hRead : get b = some (v, b')) : b'.cap ≤ b.cap := by
  rcases hGet _ _ _ hRead with ⟨front, hRest, -, -⟩
  simp only [cap, hRest, length_append]
  omega

lemma cap_lt_of_getU8 {v : UInt8} (hRead : b.getU8 = some (v, b')) : b'.cap < b.cap := by
  unfold getU8 at hRead
  split at hRead
  · cases hRead
  next hRest =>
    cases hRead
    simp [cap, hRest]

-- Writing Variable-Length Integers

end Octets

inductive VarintWidth where
  | one
  | two
  | four
  | eight

namespace VarintWidth

def bytes : VarintWidth → Nat
| one => 1
| two => 2
| four => 4
| eight => 8

def tag : VarintWidth → Nat
| one => 0
| two => 1
| four => 2
| eight => 3

def bound (w : VarintWidth) : Nat := 2 ^ (8 * w.bytes - 2)

variable (w : VarintWidth)

lemma bound_eq : w.bound = 256 ^ (w.bytes - 1) * 64 := by cases w <;> rfl

lemma bytes_eq_succ : w.bytes = w.bytes - 1 + 1 := by cases w <;> rfl

lemma tag_lt : w.tag < 4 := by cases w <;> decide

end VarintWidth

def varintBytes (w : VarintWidth) (v : Nat) : List UInt8 := beBytes w.bytes (w.tag * w.bound + v)

namespace Octets

lemma varintParseLen_of_tag (w : VarintWidth)
  {first : UInt8} (hTag : first.toNat / 64 = w.tag) : varintParseLen first = w.bytes := by
  rw [varintParseLen, hTag]
  cases w <;> rfl

variable {v : Nat}

variable (w : VarintWidth)

lemma varintParseLen_first (hBound : v < w.bound) :
  varintParseLen (UInt8.ofNat ((w.tag * w.bound + v) / 256 ^ (w.bytes - 1))) = w.bytes := by
  apply varintParseLen_of_tag
  have hPos : 0 < w.bound := Nat.lt_of_le_of_lt (Nat.zero_le v) hBound
  have hTop : (w.tag * w.bound + v) / 256 ^ (w.bytes - 1) / 64 = w.tag := by
    rw [Nat.div_div_eq_div_mul, ← w.bound_eq, Nat.mul_comm,
      Nat.mul_add_div hPos, Nat.div_eq_of_lt hBound]
    rfl
  have hByte : (w.tag * w.bound + v) / 256 ^ (w.bytes - 1) < 256 := by
    have hTag := w.tag_lt
    omega
  rw [UInt8.toNat_ofNat', Nat.mod_eq_of_lt hByte, hTop]

lemma beNat_varintBytes (hBound : v < w.bound) :
  beNat (varintBytes w v) % 2 ^ (8 * w.bytes - 2) = v := by
  have hSize : w.tag * w.bound + v < 256 ^ w.bytes := by
    cases w <;>
      simp only [VarintWidth.bound, VarintWidth.bytes, VarintWidth.tag] at hBound ⊢ <;>
      omega
  rw [varintBytes, beNat_beBytes, Nat.mod_eq_of_lt hSize,
    ← VarintWidth.bound, Nat.mul_comm, Nat.mul_add_mod, Nat.mod_eq_of_lt hBound]

@[simp] lemma length_varintBytes (v : Nat) :
  (varintBytes w v).length = w.bytes := by simp [varintBytes]

lemma getVarint_varintBytes (hBound : v < w.bound) (more : List UInt8)
  (off : Nat) : getVarint ⟨varintBytes w v ++ more, off⟩ = some (v, ⟨more, off + w.bytes⟩) := by
  have hFirst : varintBytes w v ++ more = UInt8.ofNat ((w.tag * w.bound + v)
    / 256 ^ (w.bytes - 1)) :: (beBytes (w.bytes - 1) (w.tag * w.bound + v) ++ more) := by
    rw [varintBytes, w.bytes_eq_succ, beBytes]
    rfl
  have hLength := length_varintBytes w v
  have hTake : (varintBytes w v ++ more).take w.bytes = varintBytes w v := List.take_left' hLength
  have hDrop : (varintBytes w v ++ more).drop w.bytes = more := List.drop_left' hLength
  rw [getVarint, hFirst]
  simp only [varintParseLen_first w hBound]
  rw [← hFirst, hTake, hDrop, beNat_varintBytes w hBound]
  simp [cap]

/- Whatever is read as an integer was written in one of the widths. -/
lemma exists_varintBytes
    {b b' : Octets}
    (hRead : b.getVarint = some (v, b')) :
    ∃ w : VarintWidth, v < w.bound ∧ b.rest = varintBytes w v ++ b'.rest := by
  unfold getVarint at hRead
  split at hRead
  · cases hRead
  next first tail hRest =>
    have hWidth : ∃ w : VarintWidth, first.toNat / 64 = w.tag := by
      have hLt := first.toNat_lt
      have hCases : first.toNat / 64 = 0 ∨ first.toNat / 64 = 1 ∨ first.toNat / 64 = 2 ∨
          first.toNat / 64 = 3 := by omega
      rcases hCases with hTag | hTag | hTag | hTag
      · exact ⟨.one, hTag⟩
      · exact ⟨.two, hTag⟩
      · exact ⟨.four, hTag⟩
      · exact ⟨.eight, hTag⟩
    rcases hWidth with ⟨w, hTag⟩
    simp only [varintParseLen_of_tag w hTag, Option.ite_none_left_eq_some] at hRead
    rcases hRead with ⟨hCap, hAnswer⟩
    cases hAnswer
    have hPos : 0 < w.bound := by cases w <;> decide
    refine ⟨w, Nat.mod_lt _ hPos, ?_⟩
    have hLength : (b.rest.take w.bytes).length = w.bytes :=
      List.length_take_of_le (by simpa [cap] using hCap)
    have hFront : b.rest.take w.bytes = first :: tail.take (w.bytes - 1) := by
      rw [hRest, w.bytes_eq_succ, List.take_succ_cons, Nat.add_sub_cancel]
    have hTail : (tail.take (w.bytes - 1)).length = w.bytes - 1 := by
      rw [hFront, List.length_cons] at hLength
      omega
    -- the two high bits of the number are the tag of its width
    have hTop : beNat (b.rest.take w.bytes) / w.bound = w.tag := by
      have hLow := beNat_lt (tail.take (w.bytes - 1))
      rw [hTail] at hLow
      rw [hFront, beNat_cons, hTail, w.bound_eq, ← Nat.div_div_eq_div_mul, Nat.add_comm,
        Nat.add_mul_div_right _ _ (Nat.pow_pos (by decide)), Nat.div_eq_of_lt hLow, Nat.zero_add, hTag]
    have hWhole : w.tag * w.bound + beNat (b.rest.take w.bytes) % w.bound =
        beNat (b.rest.take w.bytes) := by
      rw [← hTop]
      exact Nat.div_add_mod' _ _
    have hBytes := beBytes_beNat (b.rest.take w.bytes)
    rw [hLength] at hBytes
    rw [varintBytes, ← VarintWidth.bound, hWhole, hBytes, List.take_append_drop]

end Octets
