import Kourosh.Lib.Octets
import Kourosh.Socks.Association

/-
  Datagrams of the SOCKS relay: a request is read back as it was written, and its payload begins
  behind its header.

  Correctness is proven by:
    * `udp_framing`
-/

-- Requests

namespace Kourosh.Socks

open List
open Option

inductive Written : Target → Bytes → Prop where
  | ip (ip : IpAddr) : Written (.ip ip) (atyp ip :: octets ip)
  | domain {name : List Char}
    {bytes : Bytes} (hLength : bytes.length ≤ 255) (hName : utf8Decode bytes = some name) :
    Written (.domain name) (atypDomain :: UInt8.ofNat bytes.length :: bytes)

def headerLength (buf : Bytes) : Nat :=
  if byteAt buf 3 = atypV4 then 4 + 4 + 2
  else if byteAt buf 3 = atypV6 then 4 + 16 + 2
  else 5 + (byteAt buf 4).toNat + 2

lemma octets_v6 (ip : Ipv6Addr) : octets (.v6 ip) = beBytes 16 ip.bits.toNat := by
  have hByte (start : Nat) :
    UInt8.ofBitVec (ip.bits.extractLsb' start 8) = UInt8.ofNat (ip.bits.toNat / 2 ^ start) := by
    rw [← Nat.shiftRight_eq_div_pow]
    rfl
  simp only [octets, hByte]
  rfl

lemma ofBytes_octets (ip : Ipv6Addr) : .ofBytes (octets (.v6 ip)) = ip := by
  have hLt : ip.bits.toNat < 256 ^ 16 := ip.bits.isLt
  have hNat := beNat_beBytes 16 ip.bits.toNat
  rw [Nat.mod_eq_of_lt hLt] at hNat
  rw [octets_v6]
  change Ipv6Addr.mk (BitVec.ofNat 128 (beNat _)) = ip
  rw [hNat, BitVec.ofNat_toNat, BitVec.setWidth_eq]

lemma lossyText_of_utf8Decode {bytes : Bytes} {name : List Char}
  (hName : utf8Decode bytes = some name) : lossyText bytes = name := by
  have hSame : utf8Lossy bytes = bytes := by
    rw [utf8Lossy_eq_self_iff, hName]
    rfl
  rw [lossyText, hSame, hName, getD_some]

variable {target : Target} {address payload buf more : Bytes} {port : UInt16}

lemma parseUdpTarget_written (hWritten : Written target address)
  (hType : buf.drop 3 = address ++ more) :
  parseUdpTarget buf = some (target, 3 + address.length) := by
  have hByte (i : Nat) : byteAt buf (3 + i) = byteAt (address ++ more) i := by
    rw [← hType, byteAt_drop]
  have hBehind (i : Nat) : buf.drop (3 + i) = (address ++ more).drop i := by rw [← hType, drop_drop]
  have hSize := congrArg List.length hType
  rw [length_drop, length_append] at hSize
  cases hWritten with
  | ip ip =>
    cases ip with
    | v4 ip =>
      simp only [octets, length_cons, length_nil] at hSize
      have hKind : byteAt buf 3 = atypV4 := hByte 0
      have hAddress : byteAt buf 4 = ip.a ∧ byteAt buf 5 = ip.b ∧
        byteAt buf 6 = ip.c ∧ byteAt buf 7 = ip.d :=
        ⟨hByte 1, hByte 2, hByte 3, hByte 4⟩
      rw [parseUdpTarget, if_pos hKind, if_neg (by omega), hAddress.1,
        hAddress.2.1, hAddress.2.2.1, hAddress.2.2.2]
      rfl
    | v6 ip =>
      have hOctets : (octets (.v6 ip)).length = 16 := rfl
      have hKind : byteAt buf 3 = atypV6 := hByte 0
      rw [length_cons, hOctets] at hSize
      rw [parseUdpTarget, hKind, if_neg (by decide), if_pos rfl,
        if_neg (by omega), hBehind 1, cons_append, drop_one,
        tail_cons, take_left' hOctets, ofBytes_octets]
      rfl
  | @domain _ bytes _ hName =>
    have hLen : (UInt8.ofNat bytes.length).toNat = bytes.length := by
      rw [UInt8.toNat_ofNat']
      omega
    have hKind : byteAt buf 3 = atypDomain := hByte 0
    have hCount : byteAt buf 4 = UInt8.ofNat bytes.length := hByte 1
    simp only [length_cons] at hSize ⊢
    rw [parseUdpTarget, hKind, if_neg (by decide), if_neg (by decide),
      if_pos rfl, if_neg (by omega), hCount, hLen]
    simp only
    rw [if_neg (by omega), hBehind 2]
    simp only [cons_append, drop_succ_cons, drop_zero]
    rw [take_left, lossyText_of_utf8Decode hName]
    congr 2
    omega

/- Any request that names a target is read as it was meant. -/
lemma parseUdpRequest_written (hWritten : Written target address) (a b : UInt8) (port : UInt16)
  (payload : Bytes) : parseUdpRequest (a :: b :: 0 :: (address ++ (u16ToBe port ++ payload))) =
  some (target, port, payload) := by
  generalize hBuf : a :: b :: 0 :: (address ++ (u16ToBe port ++ payload)) = buf
  have hBehind : buf.drop (3 + address.length) = u16ToBe port ++ payload := by
    rw [← hBuf, ← drop_drop]
    exact drop_left
  have hPort : u16At buf (3 + address.length) = port := by
    have hByte := byteAt_drop buf (3 + address.length)
    rw [hBehind] at hByte
    rw [u16At, ← hByte 1, ← Nat.add_zero (3 + address.length), ← hByte 0]
    exact u16FromBe_toBe port
  have hRest : buf.drop (3 + address.length + 2) = payload := by
    rw [← drop_drop, hBehind]
    rfl
  have hSize : buf.length = 3 + address.length + 2 + payload.length := by
    rw [← hBuf]
    simp only [length_append, u16ToBe, length_cons, length_nil]
    omega
  have hWhole : ¬ (buf.length < 4 ∨ byteAt buf 2 ≠ 0) := by
    rintro (_ | hPart)
    · omega
    · rw [← hBuf] at hPart
      exact hPart rfl
  have hDrop : buf.drop 3 = address ++ (u16ToBe port ++ payload) := by
    rw [← hBuf]
    rfl
  rw [parseUdpRequest, if_neg hWhole, parseUdpTarget_written hWritten hDrop]
  simp only
  rw [if_neg (by omega), hPort, hRest]

lemma headerLength_of_target {pos : Nat}
  (hTarget : parseUdpTarget buf = some (target, pos)) : headerLength buf = pos + 2 := by
  unfold parseUdpTarget at hTarget
  unfold headerLength
  split
  next hType =>
    rw [if_pos hType] at hTarget
    split at hTarget <;> cases hTarget
    rfl
  next hFour =>
    rw [if_neg hFour] at hTarget
    split
    next hType =>
      rw [if_pos hType] at hTarget
      split at hTarget <;> cases hTarget
      rfl
    next hSix =>
      rw [if_neg hSix] at hTarget
      split at hTarget
      · split at hTarget
        · cases hTarget
        · simp only at hTarget
          split at hTarget <;> cases hTarget
          rfl
      · cases hTarget

lemma payload_of_parseUdpRequest (hParse : parseUdpRequest buf = some (target, port, payload)) :
  byteAt buf 2 = 0 ∧ headerLength buf ≤ buf.length ∧ payload = buf.drop (headerLength buf) := by
  unfold parseUdpRequest at hParse
  split at hParse
  · cases hParse
  next hWhole =>
    rw [not_or, not_not] at hWhole
    split at hParse
    · cases hParse
    next found pos hTarget =>
      have hHeader := headerLength_of_target hTarget
      split at hParse
      · cases hParse
      · cases hParse
        refine ⟨hWhole.2, by omega, ?_⟩
        rw [hHeader]

-- Checked Reads

namespace Checked

def parseUdpTarget (buf : Bytes) : Option (Option (Target × Nat)) := do
  let kind ← buf[3]?
  if kind = atypV4 then
    if buf.length < 4 + 4 then some none
    else do
      let a ← buf[4]?
      let b ← buf[5]?
      let c ← buf[6]?
      let d ← buf[7]?
      some (some (.ip (.v4 ⟨a, b, c, d⟩), 8))
  else if kind = atypV6 then
    if buf.length < 4 + 16 then some none
    else do
      let bytes ← Routing.slice buf 4 16
      some (some (.ip (.v6 (.ofBytes bytes)), 20))
  else if kind = atypDomain then
    match buf[4]? with
    | none => some none
    | some len =>
      if buf.length < 5 + len.toNat then some none
      else do
        let name ← Routing.slice buf 5 len.toNat
        some (some (.domain (lossyText name), 5 + len.toNat))
  else some none

def parseUdpRequest (buf : Bytes) : Option (Option (Target × UInt16 × Bytes)) :=
  if buf.length < 4 then some none
  else do
    let fragment ← buf[2]?
    if fragment ≠ 0 then some none
    else do
      match ← parseUdpTarget buf with
      | none => some none
      | some (target, pos) =>
        if buf.length < pos + 2 then some none
        else do
          let hi ← buf[pos]?
          let lo ← buf[pos + 1]?
          let payload ← Routing.sliceFrom buf (pos + 2)
          some (some (target, u16FromBe hi lo, payload))

lemma parseUdpTarget_eq (hLength : 4 ≤ buf.length) :
  parseUdpTarget buf = some (Socks.parseUdpTarget buf) := by
  rw [parseUdpTarget, Socks.parseUdpTarget, getElem?_eq_byteAt (by omega), bind_eq_bind, bind_some]
  split
  · split
    · rfl
    · rw [getElem?_eq_byteAt (by omega), getElem?_eq_byteAt (by omega),
        getElem?_eq_byteAt (by omega), getElem?_eq_byteAt (by omega)]
      rfl
  · split
    · split
      · rfl
      next hLong =>
        rw [Routing.slice, if_pos (by omega)]
        rfl
    · split
      · by_cases hShort : buf.length < 5
        · rw [getElem?_eq_none (by omega), if_pos hShort]
        · rw [getElem?_eq_byteAt (by omega), if_neg hShort]
          simp only
          split
          · rfl
          · rw [Routing.slice, if_pos (by omega)]
            rfl
      · rfl

lemma parseUdpRequest_eq (buf : Bytes) :
  parseUdpRequest buf = some (Socks.parseUdpRequest buf) := by
  unfold parseUdpRequest Socks.parseUdpRequest
  split
  next hShort => rw [if_pos (.inl hShort)]
  next hLong =>
    rw [getElem?_eq_byteAt (by omega), bind_eq_bind, bind_some, parseUdpTarget_eq (by omega)]
    split
    next hPart => rw [if_pos (.inr hPart)]
    next hWhole =>
      rw [if_neg (by rintro (h | h) <;> contradiction)]
      cases Socks.parseUdpTarget buf with
      | none => rfl
      | some =>
        simp only [bind_eq_bind, bind_some]
        split
        · rfl
        · rw [getElem?_eq_byteAt (by omega), getElem?_eq_byteAt (by omega),
            Routing.sliceFrom, if_pos (by omega)]
          rfl

end Checked

structure UdpFraming : Prop where
  reply : ∀ (src : SocketAddr) (data : Bytes),
    parseUdpRequest (buildUdpReply src data) = some (.ip src.ip, src.port, data)
  -- no read panics
  total : ∀ buf, Checked.parseUdpRequest buf = some (parseUdpRequest buf)
  -- the payload begins behind the header
  payload : ∀ buf target port payload,
    parseUdpRequest buf = some (target, port, payload) →
    headerLength buf ≤ buf.length ∧ payload = buf.drop (headerLength buf)
  -- a fragment is no request
  whole : ∀ buf : Bytes, buf[2]? ≠ some 0 → parseUdpRequest buf = none
  request : ∀ target address a b port payload,
    Written target address →
    parseUdpRequest (a :: b :: 0 :: (address ++ (u16ToBe port ++ payload))) =
      some (target, port, payload)

/- Replies and requests are read as they are written, whole and without a panic. -/
theorem udp_framing : UdpFraming := by
  refine ⟨?_, Checked.parseUdpRequest_eq, ?_, ?_, ?_⟩
  · intro src data
    have hReply : buildUdpReply src data =
      0 :: 0 :: 0 :: (atyp src.ip :: octets src.ip ++ (u16ToBe src.port ++ data)) := by
      simp [buildUdpReply]
    rw [hReply]
    exact parseUdpRequest_written (.ip src.ip) 0 0 src.port data
  · intro buf target port payload hParse
    exact (payload_of_parseUdpRequest hParse).2
  · intro buf hPart
    cases hParse : parseUdpRequest buf with
    | none => rfl
    | some =>
      rcases payload_of_parseUdpRequest hParse with ⟨hZero, _, -⟩
      have hHeader : 3 ≤ headerLength buf := by
        unfold headerLength
        split <;> [skip; split] <;> omega
      rw [getElem?_eq_byteAt (by omega), hZero] at hPart
      exact absurd rfl hPart
  · intro target address a b port payload hWritten
    exact parseUdpRequest_written hWritten a b port payload

end Kourosh.Socks
