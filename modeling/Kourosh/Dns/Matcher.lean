import Mathlib.Data.List.Forall2
import Kourosh.Basic
import Kourosh.Lib.Utf8

/-
  The two tests whether a DNS reply answers a query.

  Both read the header and walk over the labels of the name in the same way.

  Correctness is proven by:
    * `matchers_agree_iff`
-/

-- Header And Name

namespace Kourosh

open List

/- `name.split('.')` on the bytes of a name. -/
def labels (name : Bytes) : List Bytes := name.splitOn 46

namespace Dns

def headerMatches (msg : Bytes) (expectedId : UInt16) : Bool :=
  if msg.length < 12 then false
  else if u16At msg 0 ≠ expectedId then false
  else if byteAt msg 2 &&& 0x80 = 0 then false else u16At msg 4 = 1

def walkLabels (msg : Bytes) : List Bytes → Nat → Option Nat
| [], pos => some pos
| label :: rest, pos =>
  if label.isEmpty then walkLabels msg rest pos
  else
    match msg[pos]? with
    | none => none
    | some len =>
      let start := pos + 1
      let stop := start + len.toNat
      if len.toNat ≠ label.length then none
      else if stop > msg.length then none
      else if eqIgnoreAsciiCase ((msg.drop start).take len.toNat) label then
        walkLabels msg rest stop
      else none

/- `dns::response_matches`. -/
def responseMatches (msg : Bytes) (expectedId : UInt16) (expectedName : Bytes)
  (expectedQtype : UInt16) : Bool :=
  if headerMatches msg expectedId then
    match walkLabels msg (labels expectedName) 12 with
    | none => false
    | some pos =>
      if msg[pos]? ≠ some 0 then false
      else if pos + 1 + 4 > msg.length then false
      else u16At msg (pos + 1) = expectedQtype
  else false

end Dns

/- `SmartDnsSplit::response_matches`. -/
def SmartDns.responseMatches
  (resp : Bytes) (expectedId : UInt16) (expectedName : Bytes) (expectedQtype : UInt16) : Bool :=
  if Dns.headerMatches resp expectedId then
    match Dns.walkLabels resp (labels expectedName) 12 with
    | none => false
    | some pos =>
      if pos + 5 > resp.length then false
      else u16At resp (pos + 2) = expectedQtype
  else false

-- What A Reply Should Look Like

namespace Dns

def wireName (names : List Bytes) : Bytes := names.flatMap fun label =>
  UInt8.ofNat label.length :: label

def SameName (written asked : List Bytes) : Prop := List.Forall₂
  (fun a b => eqIgnoreAsciiCase a b = true) written asked

def Hostname (name : Bytes) : Prop := ∀ label ∈ labels name, 0 < label.length ∧ label.length ≤ 63

instance (name : Bytes) : Decidable (Hostname name) := inferInstanceAs
  (Decidable (∀ label ∈ labels name, _))

def IsReply (msg : Bytes) (id : UInt16) : Prop :=
  12 ≤ msg.length ∧ u16At msg 0 = id ∧ byteAt msg 2 &&& 0x80 ≠ 0 ∧ u16At msg 4 = 1

def StartsWithName (msg name : Bytes) : Prop :=
  ∃ written rest, SameName written (labels name) ∧ msg.drop 12 = wireName written ++ rest

def Asked (msg : Bytes) (id : UInt16) (name : Bytes) (qtype : UInt16) : Prop :=
  IsReply msg id ∧ ∃ written qclass rest, SameName written (labels name) ∧
    qclass.length = 2 ∧ msg.drop 12 = wireName written ++ 0 :: (u16ToBe qtype ++ (qclass ++ rest))

def nameEnd (name : Bytes) : Nat := 12 + (wireName (labels name)).length

lemma length_wireName_of_sameName {written asked : List Bytes}
  (hSame : SameName written asked) : (wireName written).length = (wireName asked).length := by
  induction hSame with
  | nil => rfl
  | cons hLabel _ ih =>
    have hLength := length_eq_of_eqIgnoreAsciiCase hLabel
    simp only [wireName, flatMap_cons, length_append, length_cons] at ih ⊢
    omega

lemma headerMatches_iff {msg : Bytes} {id : UInt16} : headerMatches msg id ↔ IsReply msg id := by
  unfold headerMatches IsReply
  by_cases hLength : msg.length < 12
  · simp only [hLength, if_true, Bool.false_eq_true, false_iff]
    omega
  · by_cases hId : u16At msg 0 = id
    · by_cases hQr : byteAt msg 2 &&& 0x80 = 0
      · simp [hId, hQr]
      · simp [hLength, hId, hQr]
        omega
    · simp [hId]

-- The Walk

lemma walkLabels_cons_iff {msg label : Bytes}
  {rest : List Bytes} {pos stop : Nat} (hLabel : 0 < label.length ∧ label.length ≤ 63) :
  walkLabels msg (label :: rest) pos = some stop ↔ ∃ written tail,
  eqIgnoreAsciiCase written label ∧ msg.drop pos = UInt8.ofNat written.length :: written ++
  tail ∧ walkLabels msg rest (pos + 1 + written.length) = some stop := by
  have hNonempty : label.isEmpty = false := by
    cases label with
    | nil => simp at hLabel
    | cons => rfl
  simp only [walkLabels, hNonempty, Bool.false_eq_true, if_false]
  constructor
  · intro hWalk
    cases hByte : msg[pos]? with
    | none => simp [hByte] at hWalk
    | some len =>
      simp only [hByte, ne_eq, ite_not] at hWalk
      split at hWalk
      next hLength =>
        split at hWalk
        · cases hWalk
        next hStop =>
          split at hWalk
          next hEq =>
            have hTake : ((msg.drop (pos + 1)).take len.toNat).length = len.toNat := by
              simp
              omega
            refine ⟨_, msg.drop (pos + 1 + len.toNat), hEq, ?_, ?_⟩
            · rcases List.getElem?_eq_some_iff.mp hByte with ⟨hPos, hGet⟩
              have hSplit :
                msg.drop (pos + 1 + len.toNat) = (msg.drop (pos + 1)).drop len.toNat := by
                rw [drop_drop]
              rw [hTake, UInt8.ofNat_toNat, hSplit,
                cons_append, take_append_drop, drop_eq_getElem_cons hPos, hGet]
            · rw [hTake]
              exact hWalk
          · cases hWalk
      · cases hWalk
  · rintro ⟨written, tail, hEq, hDrop, hWalk⟩
    have hLength := length_eq_of_eqIgnoreAsciiCase hEq
    have hNat : (UInt8.ofNat written.length).toNat = written.length := by
      rw [UInt8.toNat_ofNat']
      omega
    have hByte : msg[pos]? = some (UInt8.ofNat written.length) := by
      rw [← head?_drop, hDrop]
      rfl
    have hRest : msg.drop (pos + 1) = written ++ tail := by
      rw [← drop_drop, hDrop]
      rfl
    have hStop : ¬ pos + 1 + written.length > msg.length := by
      have hSize := congrArg List.length hRest
      simp only [length_drop, length_append] at hSize
      omega
    have hTake : (msg.drop (pos + 1)).take written.length = written := by rw [hRest, take_left]
    simp only [hByte, hNat]
    rw [if_neg (by simp [hLength]), if_neg hStop, hTake, if_pos hEq]
    exact hWalk

lemma walkLabels_iff {msg : Bytes} {names : List Bytes}
  (hNames : ∀ label ∈ names, 0 < label.length ∧ label.length ≤ 63) {pos stop : Nat} :
  walkLabels msg names pos = some stop ↔ ∃ written rest, SameName written names ∧
  msg.drop pos = wireName written ++ rest ∧ stop = pos + (wireName written).length := by
  induction names generalizing pos with
  | nil =>
    simp only [walkLabels, Option.some.injEq, SameName, List.forall₂_nil_right_iff]
    constructor
    · rintro rfl
      exact ⟨[], msg.drop pos, rfl, rfl, rfl⟩
    · rintro ⟨written, rest, rfl, -, rfl⟩
      rfl
  | cons label names ih =>
    have hLabel := hNames label mem_cons_self
    have hRest : ∀ l ∈ names, 0 < l.length ∧ l.length ≤ 63 := by
      intro l hL
      exact hNames l (mem_cons_of_mem label hL)
    rw [walkLabels_cons_iff hLabel]
    constructor
    · rintro ⟨first, tail, hEq, hDrop, hWalk⟩
      rcases (ih hRest).mp hWalk with ⟨written, rest, hSame, hTail, rfl⟩
      refine ⟨first :: written, rest, .cons hEq hSame, ?_, ?_⟩
      · have hBehind : msg.drop (pos + 1 + first.length) = tail := by
          rw [Nat.add_assoc, ← drop_drop, hDrop, Nat.add_comm]
          simp
        rw [hDrop, ← hBehind, hTail]
        simp [wireName]
      · simp [wireName]
        omega
    · rintro ⟨written, rest, hSame, hDrop, rfl⟩
      cases hSame with
      | @cons first _ others _ hEq hOthers =>
        simp only [wireName, flatMap_cons, cons_append, append_assoc] at hDrop
        refine ⟨first, _, hEq, hDrop, ?_⟩
        apply (ih hRest).mpr
        refine ⟨others, rest, hOthers, ?_, ?_⟩
        · rw [Nat.add_assoc, ← drop_drop, hDrop, Nat.add_comm]
          simp [wireName]
        · simp [wireName]
          omega

lemma walkLabels_name {msg name : Bytes} (hName : Hostname name) :
  walkLabels msg (labels name) 12 = some (nameEnd name) ↔ StartsWithName msg name := by
  rw [walkLabels_iff hName]
  constructor
  · rintro ⟨written, rest, hSame, hDrop, -⟩
    exact ⟨written, rest, hSame, hDrop⟩
  · rintro ⟨written, rest, hSame, hDrop⟩
    refine ⟨written, rest, hSame, hDrop, ?_⟩
    rw [nameEnd, length_wireName_of_sameName hSame]

lemma walkLabels_eq_none {msg name : Bytes} (hName : Hostname name)
  (hOther : ¬ StartsWithName msg name) : walkLabels msg (labels name) 12 = none := by
  cases hWalk : walkLabels msg (labels name) 12 with
  | none => rfl
  | some =>
    rcases (walkLabels_iff hName).mp hWalk with ⟨written, rest, hSame, hDrop, -⟩
    exact absurd ⟨written, rest, hSame, hDrop⟩ hOther

-- What The Two Tests Accept

variable {msg name : Bytes} {id qtype : UInt16}

section

variable (hName : Hostname name)

include hName

lemma walked_iff {behind : Nat → Bool} : (if headerMatches msg id then
  match walkLabels msg (labels name) 12 with
  | none => false
  | some pos => behind pos
  else false) ↔
  IsReply msg id ∧ StartsWithName msg name ∧ behind (nameEnd name) := by
  rw [← headerMatches_iff]
  by_cases hReply : headerMatches msg id
  · by_cases hStart : StartsWithName msg name
    · simp [(walkLabels_name hName).mpr hStart, hReply, hStart]
    · simp [walkLabels_eq_none hName hStart, hStart]
  · simp [hReply]

lemma responseMatches_iff_at : responseMatches msg id name qtype ↔
  IsReply msg id ∧ StartsWithName msg name ∧ nameEnd name + 5 ≤ msg.length ∧
  byteAt msg (nameEnd name) = 0 ∧ u16At msg (nameEnd name + 1) = qtype := by
  refine (walked_iff hName).trans (and_congr_right' (and_congr_right' ?_))
  by_cases hLength : nameEnd name + 5 ≤ msg.length
  · have hFour : ¬ nameEnd name + 1 + 4 > msg.length := by omega
    simp [getElem?_eq_byteAt (show nameEnd name < msg.length by omega), hFour, hLength]
  · have hFour : nameEnd name + 1 + 4 > msg.length := by omega
    simp [hFour, hLength]

lemma smartResponseMatches_iff_at :
  SmartDns.responseMatches msg id name qtype ↔ IsReply msg id ∧ StartsWithName msg name ∧
  nameEnd name + 5 ≤ msg.length ∧ u16At msg (nameEnd name + 2) = qtype := by
  refine (walked_iff hName).trans (and_congr_right' (and_congr_right' ?_))
  rw [Bool.if_false_left, Bool.and_eq_true, decide_eq_true_iff]
  simp

end

variable {written : List Bytes} {rest : Bytes}

lemma drop_nameEnd (hSame : SameName written (labels name))
  (hDrop : msg.drop 12 = wireName written ++ rest) : msg.drop (nameEnd name) = rest := by
  rw [nameEnd, ← drop_drop, hDrop, ← length_wireName_of_sameName hSame, drop_left]

lemma exists_five
  (hFive : 5 ≤ rest.length) : ∃ z a b c d more, rest = z :: a :: b :: c :: d :: more :=
  match rest, hFive with
  | z :: a :: b :: c :: d :: more, _ => ⟨z, a, b, c, d, more, rfl⟩

lemma question_iff_at (hReply : IsReply msg id) (hSame : SameName written (labels name))
  (hDrop : msg.drop 12 = wireName written ++ rest) : (nameEnd name + 5 ≤ msg.length ∧
  byteAt msg (nameEnd name) = 0 ∧ u16At msg (nameEnd name + 1) = qtype) ↔
  ∃ qclass more, qclass.length = 2 ∧ rest = 0 :: (u16ToBe qtype ++ (qclass ++ more)) := by
  have hRest := drop_nameEnd hSame hDrop
  have hLength : msg.length = nameEnd name + rest.length := by
    have hSize := congrArg List.length hDrop
    have hTwelve := hReply.1
    simp only [length_drop, length_append, length_wireName_of_sameName hSame] at hSize
    rw [nameEnd]
    omega
  have hZero : byteAt msg (nameEnd name) = byteAt rest 0 := by
    rw [← hRest, byteAt_drop, Nat.add_zero]
  have hType : u16At msg (nameEnd name + 1) = u16At rest 1 := by
    rw [← hRest, u16At, u16At, byteAt_drop, byteAt_drop]
  rw [hLength, hZero, hType]
  constructor
  · rintro ⟨_, hByte, hQtype⟩
    -- five bytes: terminator, type and class
    have hRoom : 5 ≤ rest.length := by omega
    rcases exists_five hRoom with ⟨z, a, b, c, d, more, rfl⟩
    have hBytes : u16ToBe qtype = [a, b] := u16FromBe_eq_iff.mp hQtype
    have hZ : z = 0 := hByte
    refine ⟨[c, d], more, rfl, ?_⟩
    rw [hBytes, hZ]
    rfl
  · rintro ⟨qclass, more, hClass, rfl⟩
    refine ⟨?_, rfl, u16FromBe_eq_iff.mpr rfl⟩
    simp only [u16ToBe, length_cons, length_append, hClass, length_nil]
    omega

lemma responseMatches_iff (hName : Hostname name) :
  responseMatches msg id name qtype ↔ Asked msg id name qtype := by
  rw [responseMatches_iff_at hName]
  constructor
  · rintro ⟨hReply, ⟨written, rest, hSame, hDrop⟩, hAt⟩
    rcases (question_iff_at hReply hSame hDrop).mp hAt with ⟨qclass, more, hClass, rfl⟩
    exact ⟨hReply, written, qclass, more, hSame, hClass, hDrop⟩
  · rintro ⟨hReply, written, qclass, more, hSame, hClass, hDrop⟩
    exact ⟨hReply, ⟨written, _, hSame, hDrop⟩,
      (question_iff_at hReply hSame hDrop).mpr ⟨qclass, more, hClass, rfl⟩⟩

/-
  Behind the type asked for, the bytes one further on are the same type only if they are one byte
  repeated.
-/
lemma type_again_iff {pos : Nat} (hType : u16At msg (pos + 1) = qtype) :
  u16At msg (pos + 2) = qtype ↔ u16ToBe qtype = [byteAt msg (pos + 3), byteAt msg (pos + 3)] := by
  have hBytes : u16ToBe qtype = [byteAt msg (pos + 1), byteAt msg (pos + 2)] :=
    u16FromBe_eq_iff.mp hType
  have hAgain :
    u16At msg (pos + 2) = qtype ↔ u16ToBe qtype = [byteAt msg (pos + 2), byteAt msg (pos + 3)] :=
    u16FromBe_eq_iff
  rw [hAgain, hBytes]
  simp only [cons.injEq, and_true]
  constructor
  · rintro ⟨hFirst, hSecond⟩
    exact ⟨hFirst.trans hSecond, hSecond⟩
  · rintro ⟨hFirst, hSecond⟩
    exact ⟨hFirst.trans hSecond.symm, hSecond⟩

/-
  The two tests agree, and accept exactly the replies asked for, if and only if in a message that
  gets as far as the type of its question
    * terminator and type are the ones asked for, and the type
      is the first byte of the class repeated, or
    * they are not, and the two bytes behind the place of the
      type's first byte are not the type either.
-/
theorem matchers_agree_iff
    (msg : Bytes)
    (id : UInt16)
    (name : Bytes)
    (qtype : UInt16)
    (hName : Hostname name) :
    ((SmartDns.responseMatches msg id name qtype = true ↔
        responseMatches msg id name qtype = true) ∧
      (responseMatches msg id name qtype = true ↔ Asked msg id name qtype) ∧
      (SmartDns.responseMatches msg id name qtype = true ↔ Asked msg id name qtype)) ↔
    (IsReply msg id →
      StartsWithName msg name →
      nameEnd name + 5 ≤ msg.length →
      if byteAt msg (nameEnd name) = 0 ∧ u16At msg (nameEnd name + 1) = qtype then
        u16ToBe qtype = [byteAt msg (nameEnd name + 3), byteAt msg (nameEnd name + 3)]
      else u16At msg (nameEnd name + 2) ≠ qtype) := by
  have hDns : responseMatches msg id name qtype ↔ Asked msg id name qtype :=
    responseMatches_iff hName
  have hCase : (if byteAt msg (nameEnd name) = 0 ∧ u16At msg (nameEnd name + 1) = qtype then
        u16ToBe qtype = [byteAt msg (nameEnd name + 3), byteAt msg (nameEnd name + 3)]
      else u16At msg (nameEnd name + 2) ≠ qtype) ↔
      (u16At msg (nameEnd name + 2) = qtype ↔ byteAt msg (nameEnd name) = 0 ∧
        u16At msg (nameEnd name + 1) = qtype) := by
    split
    next hType =>
      rw [← type_again_iff hType.2]
      exact (iff_true_right hType).symm
    next hType => exact (iff_false_right hType).symm
  rw [hCase, ← hDns, responseMatches_iff_at hName, smartResponseMatches_iff_at hName]
  simp

/- A reply with id 7 to the question for `a`, class IN. -/
def replyToA (qtype : UInt16) : Bytes :=
  [0, 7, 0x81, 0x80, 0, 1, 0, 0, 0, 0, 0, 0, 1, 97, 0] ++ (u16ToBe qtype ++ [0, 1])

lemma hostname_a : Hostname [97] := by decide

/- For type zero the bytes read are the same. -/
theorem matchers_agree_iff_zero :
  SmartDns.responseMatches (replyToA 0) 7 [97] 0 = true ↔ Asked (replyToA 0) 7 [97] 0 := by
  have hAgree := (matchers_agree_iff (replyToA 0) 7 [97] 0 hostname_a).mpr (fun _ _ _ => by decide)
  exact hAgree.2.2

/- A genuine reply for an address is rejected. -/
theorem smart_rejects_genuine_reply :
  ¬ ∀ (msg : Bytes) (id : UInt16) (name : Bytes) (qtype : UInt16), Hostname name →
  ((SmartDns.responseMatches msg id name qtype = true ↔ responseMatches msg id name qtype =
  true) ∧ (responseMatches msg id name qtype = true ↔ Asked msg id name qtype) ∧
  (SmartDns.responseMatches msg id name qtype = true ↔ Asked msg id name qtype)) := by
  intro hAll
  have hAgree := (hAll (replyToA 1) 7 [97] 1 hostname_a).1
  exact absurd (hAgree.mpr (by decide)) (by decide)

end Dns

end Kourosh
