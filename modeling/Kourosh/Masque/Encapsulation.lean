import Kourosh.Masque.Chunking
import Kourosh.Masque.Datagram

/-
  Encapsulation of IP packets and back.

  Every packet comes out of both framings as it went in.

  Correctness is proven by:
    * `encapsulation_round_trip`
-/

-- Datagrams

namespace Kourosh.Masque

open List Octets CapsuleParser

variable {v : Nat} {packet : Bytes}

lemma lt_bound_varintWidth (hBound : v < 2 ^ 62) : v < (varintWidth v).bound := by
  unfold varintWidth
  split
  next hOne => exact hOne
  next =>
    split
    next hTwo => exact hTwo
    next =>
      split
      next hFour => exact hFour
      next => exact hBound

lemma getVarint_putVarint (hBound : v < 2 ^ 62) (more : Bytes) (off : Nat) :
  getVarint ⟨putVarint v ++ more, off⟩ = some (v, ⟨more, off + (varintWidth v).bytes⟩) :=
  getVarint_varintBytes (varintWidth v) (lt_bound_varintWidth hBound) more off

lemma decodeIpDatagram_encode {streamId : Nat} (hBound : streamId < 2 ^ 62) (packet : Bytes)
  (other : Nat) : decodeIpDatagram (encodeIpDatagram streamId packet) other = .ok
    (if quarterStreamId streamId = quarterStreamId other then some packet else none) := by
  have hQuarter : quarterStreamId streamId < 2 ^ 62 := by
    rw [quarterStreamId]
    omega
  have hContext : connectIpContextId < 2 ^ 62 := by decide
  have hFirst := getVarint_putVarint hQuarter (putVarint connectIpContextId ++ packet) 0
  have hSecond := getVarint_putVarint hContext packet
    (0 + (varintWidth (quarterStreamId streamId)).bytes)
  have hThird : ∀ off,
    getBytes ⟨packet, off⟩ packet.length = some (packet, ⟨[], off + packet.length⟩) := by
    intro off
    simp [getBytes, cap]
  rw [decodeIpDatagram, encodeIpDatagram, withSlice, hFirst]
  by_cases hSame : quarterStreamId streamId = quarterStreamId other
  · rw [hSame] at hSecond
    simp only [orOct, bind, Except.bind, pure, Except.pure,
      ne_eq, hSame, not_true_eq_false, if_false, hSecond, cap_mk, hThird, if_true]
  · simp only [orOct, bind, Except.bind, pure, Except.pure,
      ne_eq, hSame, not_false_eq_true, if_true, if_false]

-- Capsules

def datagramCapsule {t : Usize} (packet : Bytes)
  (hFits : packet.length < 2 ^ t.bits) (hBound : packet.length < 2 ^ 62) : WireCapsule t where
  kind := capsuleDatagram
  kindWidth := varintWidth capsuleDatagram
  value := packet
  lenWidth := varintWidth packet.length
  kind_lt := by decide
  length_lt := lt_bound_varintWidth hBound
  value_fits := hFits

lemma length_encodeDatagramCapsule
  (packet : Bytes) : packet.length ≤ (encodeDatagramCapsule packet).length ∧
  (encodeDatagramCapsule packet).length ≤ 16 + packet.length := by
  have hWidth : ∀ v, (putVarint v).length ≤ 8 := by
    intro v
    rw [putVarint, length_varintBytes]
    cases varintWidth v with
    | one | two | four | eight => decide
  have hKind := hWidth capsuleDatagram
  have hField := hWidth packet.length
  simp only [encodeDatagramCapsule, encodeCapsule, length_append]
  omega

def longestPacket : Nat := 40 + 65535

lemma length_encodeDatagramCapsule_le (hLength : packet.length ≤ longestPacket) :
  (encodeDatagramCapsule packet).length ≤ maxCapsuleBuf := by
  have hCapsule := length_encodeDatagramCapsule packet
  rw [longestPacket] at hLength
  rw [maxCapsuleBuf]
  omega

lemma next_encodeDatagramCapsule (hLength : (encodeDatagramCapsule packet).length ≤ maxCapsuleBuf)
  (t : Usize) (rest : Bytes) : next t ⟨encodeDatagramCapsule packet ++ rest⟩ =
  (.ok (some (.datagram packet)), ⟨rest⟩) := by
  have hCapsule := length_encodeDatagramCapsule packet
  rw [maxCapsuleBuf] at hLength
  have hFits : packet.length < 2 ^ t.bits := by
    cases t with
    | w32 | w64 =>
      rw [Usize.bits]
      omega
  have hFront := (datagramCapsule packet hFits (by omega)).frontCapsule_encode_cast rest
  have hEncode : (datagramCapsule packet hFits (by omega)).encode =
    encodeDatagramCapsule packet := rfl
  rw [hEncode] at hFront
  rw [next_eq, hFront]
  rfl

-- Context Ids

def IpLike (packet : Bytes) : Prop := 20 ≤ packet.length ∧
  ((byteAt packet 0 >>> 4 = 4 ∧ 5 ≤ (byteAt packet 0 &&& 0x0f).toNat) ∨ byteAt packet 0 >>> 4 = 6)

lemma first_of_ipLike {first : UInt8}
  {rest : Bytes} (hIpLike : IpLike (first :: rest)) : 69 ≤ first.toNat ∧ first.toNat < 112 := by
  have hShift : (first >>> 4).toNat = first.toNat / 16 := by
    rw [UInt8.toNat_shiftRight]
    exact Nat.shiftRight_eq_div_pow first.toNat 4
  have hLow : (first &&& 0x0f).toNat = first.toNat % 16 := by
    rw [UInt8.toNat_and]
    exact Nat.and_two_pow_sub_one_eq_mod first.toNat 4
  rcases hIpLike with ⟨-, ⟨hFour, hIhl⟩ | hSix⟩
  · have hHigh : first.toNat / 16 = 4 := by
      rw [← hShift, show first >>> 4 = 4 from hFour]
      rfl
    have hWords : 5 ≤ first.toNat % 16 := by
      rw [← hLow]
      exact hIhl
    omega
  · have hHigh : first.toNat / 16 = 6 := by
      rw [← hShift, show first >>> 4 = 6 from hSix]
      rfl
    omega

section

variable (hIpLike : IpLike packet)

include hIpLike

lemma looksLikeIpPacket_of_ipLike : looksLikeIpPacket packet := by
  cases packet with
  | nil => exact absurd hIpLike.1 (by decide)
  | cons =>
    have hLength := hIpLike.1
    rw [looksLikeIpPacket,
      Bool.and_eq_true, decide_eq_true_eq, Bool.or_eq_true, decide_eq_true_eq, decide_eq_true_eq]
    refine ⟨?_, hLength⟩
    rcases hIpLike.2 with ⟨hFour, -⟩ | hSix
    · exact .inl hFour
    · exact .inr hSix

lemma behindContext_of_ipLike : behindContext packet = none := by
  match packet, hIpLike with
  | [], hIpLike => exact absurd hIpLike.1 (by decide)
  | [first], hIpLike =>
    exact absurd hIpLike.1 (by
      rw [length_singleton]
      decide)
  | first :: second :: rest, hIpLike =>
    have hFirst := first_of_ipLike hIpLike
    have hWidth : varintParseLen first = 2 :=
      varintParseLen_of_tag .two (by
        rw [VarintWidth.tag]
        omega)
    have hNonzero : beNat [first, second] % 2 ^ (8 * 2 - 2) ≠ connectIpContextId := by
      have hValue : beNat [first, second] = first.toNat * 256 + second.toNat := by simp [beNat]
      have hSecond := second.toNat_lt
      rw [hValue, connectIpContextId]
      omega
    have hRead : (withSlice (first :: second :: rest)).getVarint =
      some (beNat [first, second] % 2 ^ (8 * 2 - 2), ⟨rest, 0 + 2⟩) := by
      simp [getVarint, withSlice, cap, hWidth]
    rw [behindContext, hRead]
    simp only [hNonzero, false_and, if_false]

lemma stripDatagramContext_of_ipLike : stripDatagramContext packet = some packet := by
  have hSome : packet ≠ [] := by
    intro hEmpty
    rw [hEmpty] at hIpLike
    exact absurd hIpLike.1 (by decide)
  rw [stripDatagramContext, if_neg hSome, behindContext_of_ipLike hIpLike]
  exact if_pos (looksLikeIpPacket_of_ipLike hIpLike)

lemma stripDatagramContext_context
  (w : VarintWidth) : stripDatagramContext (varintBytes w 0 ++ packet) = some packet := by
  have hRead := getVarint_varintBytes w (v := 0) (by cases w <;> decide) packet 0
  have hLength : (varintBytes w 0).length = w.bytes := length_varintBytes w 0
  have hBytes : 0 < w.bytes := by
    rw [w.bytes_eq_succ]
    exact Nat.succ_pos _
  have hSome : varintBytes w 0 ++ packet ≠ [] := by
    intro hEmpty
    have hZero := congrArg length hEmpty
    rw [length_append, hLength, length_nil] at hZero
    omega
  have hInner : (varintBytes w 0 ++
    packet).drop ((varintBytes w 0 ++ packet).length - packet.length) = packet := by
    rw [length_append, Nat.add_sub_cancel]
    exact drop_left
  have hBehind : behindContext (varintBytes w 0 ++ packet) = some packet := by
    rw [behindContext, withSlice, hRead]
    simp only [cap_mk, hInner]
    exact if_pos ⟨rfl, looksLikeIpPacket_of_ipLike hIpLike⟩
  rw [stripDatagramContext, if_neg hSome, hBehind]

end

-- Round Trips

/-
  A packet comes back from its stream and from no other, from its capsule, and from behind a
  context id.
-/
theorem encapsulation_round_trip
    (streamId : Nat)
    (packet : Bytes)
    (hQuarter : streamId % 4 = 0)
    (hBound : streamId < 2 ^ 62)
    (hIpLike : IpLike packet) :
    decodeIpDatagram (encodeIpDatagram streamId packet) streamId = .ok (some packet) ∧
    (∀ other,
      other % 4 = 0 →
      other < 2 ^ 62 →
      other ≠ streamId →
      decodeIpDatagram (encodeIpDatagram streamId packet) other = .ok none) ∧
    (packet.length ≤ longestPacket → (encodeDatagramCapsule packet).length ≤ maxCapsuleBuf) ∧
    ((encodeDatagramCapsule packet).length ≤ maxCapsuleBuf →
     ∀ t,
       (CapsuleParser.new.push (encodeDatagramCapsule packet)).next t =
         (.ok (some (.datagram packet)), .new)) ∧
    stripDatagramContext packet = some packet ∧
    ∀ w, stripDatagramContext (varintBytes w 0 ++ packet) = some packet := by
  refine ⟨?_, ?_, length_encodeDatagramCapsule_le, ?_, ?_, ?_⟩
  · rw [decodeIpDatagram_encode hBound, if_pos rfl]
  · intro other hOther hLess hNot
    have hApart : quarterStreamId streamId ≠ quarterStreamId other := by
      rw [quarterStreamId, quarterStreamId]
      omega
    rw [decodeIpDatagram_encode hBound, if_neg hApart]
  · intro hFits t
    have hNext := next_encodeDatagramCapsule hFits t []
    rw [append_nil] at hNext
    rw [push_of_le (by
      rw [new, length_nil, Nat.zero_add]
      exact hFits)]
    exact hNext
  · exact stripDatagramContext_of_ipLike hIpLike
  · exact stripDatagramContext_context hIpLike

/- An IPv6 header is longer than the shortest packet. -/
theorem encapsulation_round_trip_of_ipv6 :
  decodeIpDatagram (encodeIpDatagram 4 (0x60 :: replicate 39 0)) 4 =
  .ok (some (0x60 :: replicate 39 0)) ∧ stripDatagramContext
  (varintBytes .eight 0 ++ 0x60 :: replicate 39 0) = some (0x60 :: replicate 39 0) := by
  have hRound := encapsulation_round_trip 4 (0x60 :: replicate 39 0) rfl (by decide)
    ⟨by decide, .inr (by decide)⟩
  exact ⟨hRound.1, hRound.2.2.2.2.2 .eight⟩

end Kourosh.Masque
