import Kourosh.Tun2socks.WellFormed

/-
  Reads of a packet that can panic.

  The handlers are written out once more with every index and every slice of the source checked: a
  read out of range has no result, as the task that makes it has none.

  Correctness is proven by:
    * `serve_eq_none_iff`
    * `robust_iff_framed`
-/

-- Checked Reads

namespace Kourosh.Tun2socks

open List Bridge
open Option

namespace Checked

/- `buf[lo..hi]`. -/
def slice (buf : Bytes) (lo hi : Nat) : Option Bytes :=
  if lo ≤ hi ∧ hi ≤ buf.length then some ((buf.take hi).drop lo) else none

/- `u16::from_be_bytes([buf[i], buf[i + 1]])`. -/
def u16At (buf : Bytes) (i : Nat) : Option UInt16 := do
  let hi ← buf[i]?
  let lo ← buf[i + 1]?
  return u16FromBe hi lo

/- `u32::from_be_bytes` of the four bytes from `i` on. -/
def u32At (buf : Bytes) (i : Nat) : Option UInt32 := do
  let a ← buf[i]?
  let b ← buf[i + 1]?
  let c ← buf[i + 2]?
  let d ← buf[i + 3]?
  return u32FromBe a b c d

def ipFromBytes (b : Bytes) : Option Ipv4Addr := do
  let a₀ ← b[0]?
  let a₁ ← b[1]?
  let a₂ ← b[2]?
  let a₃ ← b[3]?
  return ⟨a₀, a₁, a₂, a₃⟩

def tcpFlags (buf : Bytes) (ihl : Nat) : Option (Bool × Bool × Bool) :=
  if buf.length < ihl + 14 then some (false, false, false)
  else do
    let flags ← buf[ihl + 13]?
    return (flags &&& 0x02 != 0, flags &&& 0x10 != 0, flags &&& 0x01 != 0)

def isRstFlag (tcp : Bytes) : Option Bool :=
  if tcp.length > 13 then do
    let flags ← tcp[13]?
    return flags &&& 0x04 != 0
  else some false

def dnsCacheKey (server : Ipv4Addr) (query : Bytes) : Option Bytes :=
  let ip := [server.a, server.b, server.c, server.d]
  if query.length > 2 then do
    let question ← slice query 2 query.length
    return ip ++ question
  else some ip

def restoreId (answer query : Bytes) : Option Bytes :=
  if answer.length ≥ 2 ∧ query.length ≥ 2 then do
    let hi ← query[0]?
    let lo ← query[1]?
    return (answer.set 0 hi).set 1 lo
  else some answer

-- Checked Handlers

/-
  What the handlers find in the shared tables: the next byte expected on the connected entry of a
  port, and the cached answer under a key.
-/
structure Tables where
  expected : UInt16 → Option UInt32
  cached : Bytes → Option Bytes

inductive Handled where
  | ignored
  -- a segment, with the chunk taken from its payload
  | tcp (seg : Segment) (chunk : Option Bytes)
  -- a query, with the answer sent from the cache
  | dns (srcPort : UInt16) (query : Bytes) (answer : Option Bytes)

def chunkOf (tables : Tables) (seg : Segment) : Option (Option Bytes) :=
  if seg.carriesData then
    match tables.expected seg.sport with
    | none => some none
    | some expected =>
      match segmentAction expected seg with
      | .forward off => do
        let chunk ← slice seg.payload off seg.payload.length
        return some chunk
      | .ackOnly => some none
  else some none

/- The reads of `handle_tcp`. -/
def handleTcp (tables : Tables) (i : Inbound) : Option Handled :=
  if i.packet.length < i.ihl + 20 then some .ignored
  else do
    let tcp ← slice i.packet i.ihl i.packet.length
    let sport ← u16At tcp 0
    let dport ← u16At tcp 2
    let seqNum ← u32At tcp 4
    -- the number acknowledged is only logged
    let _ackNum ← u32At tcp 8
    let offset ← tcp[12]?
    let tcpHdrLen := (offset >>> 4).toNat * 4
    let (isSyn, isAck, isFin) ← tcpFlags i.packet i.ihl
    let payload ← slice tcp tcpHdrLen tcp.length
    let isRst ← isRstFlag tcp
    let seg : Segment :=
      { srcIp := i.srcIp
        dstIp := i.dstIp
        sport
        dport
        seqNum
        isSyn
        isAck
        isFin
        isRst
        payload }
    let chunk ← chunkOf tables seg
    return .tcp seg chunk

/- The reads of `handle_udp_spawn` and of its task. -/
def handleUdpSpawn (tables : Tables) (i : Inbound) : Option Handled :=
  if i.packet.length < i.ihl + 8 then some .ignored
  else do
    let udp ← slice i.packet i.ihl i.packet.length
    let srcPort ← u16At udp 0
    let dstPort ← u16At udp 2
    if dstPort ≠ 53 ∨ udp.length ≤ 8 then return .ignored
    else
      let query ← slice udp 8 udp.length
      let key ← dnsCacheKey i.dstIp query
      match tables.cached key with
      | some answer =>
        let restored ← restoreId answer query
        return .dns srcPort query (some restored)
      | none => return .dns srcPort query none

def serve (tables : Tables) (pkt : Bytes) : Option Handled :=
  if pkt.length < 20 then some .ignored
  else do
    let first : UInt8 ← pkt[0]?
    if first >>> 4 ≠ 4 then return .ignored
    else
      let proto ← pkt[9]?
      let src ← slice pkt 12 16
      let srcIp ← ipFromBytes src
      let dst ← slice pkt 16 20
      let dstIp ← ipFromBytes dst
      let inbound : Inbound :=
        { packet := pkt
          ihl := (first &&& 0x0f).toNat * 4
          srcIp
          dstIp }
      if proto = 6 then handleTcp tables inbound
      else if proto = 17 then handleUdpSpawn tables inbound else return .ignored

-- Guarded Reads

variable {buf : Bytes} {i lo : Nat} {s : Bridge}

lemma slice_of_le {hi : Nat} (hLo : lo ≤ hi) (hHi : hi ≤ buf.length) :
  slice buf lo hi = some ((buf.take hi).drop lo) := if_pos ⟨hLo, hHi⟩

lemma slice_length (hLo : lo ≤ buf.length) : slice buf lo buf.length = some (buf.drop lo) := by
  rw [slice_of_le hLo (Nat.le_refl _), take_length]

lemma u16At_of_lt (hLt : i + 1 < buf.length) :
  u16At buf i = some (u16FromBe (byteAt buf i) (byteAt buf (i + 1))) := by
  simp [u16At, getElem?_eq_byteAt hLt, getElem?_eq_byteAt (Nat.lt_of_succ_lt hLt)]

lemma u32At_of_lt (hLt : i + 3 < buf.length) : u32At buf i = some
  (u32FromBe (byteAt buf i) (byteAt buf (i + 1)) (byteAt buf (i + 2)) (byteAt buf (i + 3))) := by
  have h₀ : i < buf.length := by omega
  have h₁ : i + 1 < buf.length := by omega
  have h₂ : i + 2 < buf.length := by omega
  simp [u32At, getElem?_eq_byteAt h₀, getElem?_eq_byteAt h₁,
    getElem?_eq_byteAt h₂, getElem?_eq_byteAt hLt]

lemma ipFromBytes_of_lt (hLt : 3 < buf.length) :
  ipFromBytes buf = some (Tun2socks.ipFromBytes buf) := by
  have h₀ : 0 < buf.length := by omega
  have h₁ : 1 < buf.length := by omega
  have h₂ : 2 < buf.length := by omega
  simp [ipFromBytes, Tun2socks.ipFromBytes,
    getElem?_eq_byteAt h₀, getElem?_eq_byteAt h₁, getElem?_eq_byteAt h₂, getElem?_eq_byteAt hLt]

lemma tcpFlags_eq (buf : Bytes) (ihl : Nat) :
  tcpFlags buf ihl = some (Tun2socks.tcpFlags buf ihl) := by
  unfold tcpFlags Tun2socks.tcpFlags
  by_cases hShort : buf.length < ihl + 14
  · rw [if_pos hShort, if_pos hShort]
  · have hLt : ihl + 13 < buf.length := by omega
    rw [if_neg hShort, if_neg hShort, getElem?_eq_byteAt hLt]
    rfl

lemma isRstFlag_eq (tcp : Bytes) : isRstFlag tcp = some (Tun2socks.isRstFlag tcp) := by
  unfold isRstFlag Tun2socks.isRstFlag
  by_cases hLong : tcp.length > 13
  · rw [if_pos hLong, getElem?_eq_byteAt hLong]
    simp [hLong]
  · rw [if_neg hLong]
    simp [hLong]

lemma dnsCacheKey_ne_none (server : Ipv4Addr) (query : Bytes) :
  ∃ key, dnsCacheKey server query = some key := by
  unfold dnsCacheKey
  by_cases hLong : query.length > 2
  · simp [hLong, slice_length (Nat.le_of_lt hLong)]
  · simp [hLong]

lemma restoreId_ne_none (answer query : Bytes) :
  ∃ restored, restoreId answer query = some restored := by
  unfold restoreId
  by_cases hLong : answer.length ≥ 2 ∧ query.length ≥ 2
  · have h₀ : 0 < query.length := by omega
    have h₁ : 1 < query.length := by omega
    simp [hLong, getElem?_eq_byteAt h₀, getElem?_eq_byteAt h₁]
  · simp [hLong]

lemma chunkOf_ne_none (tables : Tables) (seg : Segment) :
  ∃ chunk, chunkOf tables seg = some chunk := by
  unfold chunkOf
  split
  · cases tables.expected seg.sport with
    | none => exact ⟨none, rfl⟩
    | some expected =>
      cases hAction : segmentAction expected seg with
      | ackOnly => exact ⟨none, by simp [hAction]⟩
      | forward off =>
        have hOff := off_le_of_segmentAction hAction
        exact ⟨some (seg.payload.drop off), by simp [hAction, slice_length hOff]⟩
  · exact ⟨none, rfl⟩

-- The Handlers Read What The Model Reads

section

variable (tables : Tables)

lemma handleTcp_eq (i : Inbound) : handleTcp tables i = match parseTcp i with
  | .short => some .ignored
  | .panics => none
  | .segment seg => (chunkOf tables seg).map (.tcp seg) := by
  unfold handleTcp parseTcp
  by_cases hShort : i.packet.length < i.ihl + 20
  · rw [if_pos hShort, if_pos hShort]
  · rw [if_neg hShort, if_neg hShort]
    have hLength : 20 ≤ (i.packet.drop i.ihl).length := by
      rw [length_drop]
      omega
    rw [slice_length (by omega)]
    generalize i.packet.drop i.ihl = tcp at hLength
    have h₁ : 0 + 1 < tcp.length := by omega
    have h₃ : 2 + 1 < tcp.length := by omega
    have h₇ : 4 + 3 < tcp.length := by omega
    have h₁₁ : 8 + 3 < tcp.length := by omega
    have h₁₂ : 12 < tcp.length := by omega
    simp only [bind_eq_bind, bind_some, u16At_of_lt h₁,
      u16At_of_lt h₃, u32At_of_lt h₇, u32At_of_lt h₁₁, getElem?_eq_byteAt h₁₂, tcpFlags_eq]
    by_cases hPanics : tcp.length < (byteAt tcp 12 >>> 4).toNat * 4
    · rw [slice, if_neg fun hRange => Nat.not_le_of_lt hPanics hRange.1, if_pos hPanics]
      rfl
    · rw [slice_length (by omega), if_neg hPanics]
      simp only [bind_some, isRstFlag_eq, map_eq_bind]
      rfl

lemma handleUdpSpawn_ne_none (i : Inbound) :
  ∃ handled, handleUdpSpawn tables i = some handled ∧ ∀ seg chunk, handled ≠ .tcp seg chunk := by
  unfold handleUdpSpawn
  by_cases hShort : i.packet.length < i.ihl + 8
  · exact ⟨.ignored, if_pos hShort, by simp⟩
  · rw [if_neg hShort, slice_length (by omega)]
    have hLength : 8 ≤ (i.packet.drop i.ihl).length := by
      rw [length_drop]
      omega
    generalize i.packet.drop i.ihl = udp at hLength
    have h₁ : 0 + 1 < udp.length := by omega
    have h₃ : 2 + 1 < udp.length := by omega
    simp only [bind_eq_bind, bind_some, u16At_of_lt h₁, u16At_of_lt h₃]
    split
    · exact ⟨.ignored, rfl, by simp⟩
    · rw [slice_length hLength]
      rcases dnsCacheKey_ne_none i.dstIp (udp.drop 8) with ⟨key, hKey⟩
      simp only [bind_some, hKey]
      cases tables.cached key with
      | none => exact ⟨_, rfl, by simp⟩
      | some answer =>
        rcases restoreId_ne_none answer (udp.drop 8) with ⟨restored, hRestored⟩
        simp only [hRestored, bind_some]
        exact ⟨_, rfl, by simp⟩

lemma serve_eq (pkt : Bytes) : serve tables pkt = match dispatch pkt with
  | .skip => some .ignored
  | .tcp inbound => handleTcp tables inbound
  | .udp inbound => handleUdpSpawn tables inbound := by
  unfold serve dispatch
  by_cases hShort : pkt.length < 20
  · rw [if_pos hShort, if_pos hShort]
  · have h₀ : 0 < pkt.length := by omega
    have h₉ : 9 < pkt.length := by omega
    have hSrc : slice pkt 12 16 = some ((pkt.drop 12).take 4) := by
      rw [slice_of_le (by omega) (by omega), take_drop]
    have hDst : slice pkt 16 20 = some ((pkt.drop 16).take 4) := by
      rw [slice_of_le (by omega) (by omega), take_drop]
    have hSrcIp := ipFromBytes_of_lt (show 3 < ((pkt.drop 12).take 4).length by
      simp only [length_take, length_drop]
      omega)
    have hDstIp := ipFromBytes_of_lt (show 3 < ((pkt.drop 16).take 4).length by
      simp only [length_take, length_drop]
      omega)
    rw [if_neg hShort, if_neg hShort]
    simp only [bind_eq_bind,
      bind_some, getElem?_eq_byteAt h₀, getElem?_eq_byteAt h₉, hSrc, hDst, hSrcIp, hDstIp]
    by_cases hVersion : byteAt pkt 0 >>> 4 ≠ 4
    · rw [if_pos hVersion, if_pos hVersion]
      rfl
    · rw [if_neg hVersion, if_neg hVersion]
      by_cases hTcp : byteAt pkt 9 = 6
      · rw [if_pos hTcp, if_pos hTcp]
      · rw [if_neg hTcp, if_neg hTcp]
        by_cases hUdp : byteAt pkt 9 = 17
        · rw [if_pos hUdp, if_pos hUdp]
        · rw [if_neg hUdp, if_neg hUdp]
          rfl

end

attribute [local simp] Bridge.setHandler

lemma handler_handleTcp_ne_panicked (hIdle : s.handler = .idle)
  (seg : Segment) (isn : UInt32) (app : Nat) : (s.handleTcp seg isn app).handler ≠ .panicked := by
  unfold Bridge.handleTcp handleSyn handleData
  dsimp only
  repeat' split
  all_goals simp [removeConn, refuse, stamp, hIdle]

/- In every state of the bridge the read loop panics at exactly the packets it cannot index. -/
theorem serve_eq_none_iff
    (s : Bridge)
    (tables : Tables)
    (pkt : Bytes)
    (isn : UInt32)
    (app : Nat) :
    serve tables pkt = none ↔
      ({ s with handler := .idle }.receive pkt isn app).handler = .panicked := by
  rw [serve_eq, receive]
  cases dispatch pkt with
  | skip => simp
  | udp inbound =>
    rcases handleUdpSpawn_ne_none tables inbound with ⟨handled, hHandled, -⟩
    simp [hHandled]
  | tcp inbound =>
    simp only [handleTcp_eq]
    cases parseTcp inbound with
    | short => simp
    | panics => simp
    | segment seg =>
      rcases chunkOf_ne_none tables seg with ⟨chunk, hChunk⟩
      rcases exists_noteApp { s with handler := .idle } seg app with ⟨apps, hApps⟩
      simp only [hApps]
      simp [hChunk, handler_handleTcp_ne_panicked]

end Checked

-- Robustness

def headerLength (pkt : Bytes) : Nat := (byteAt pkt 0 &&& 0x0f).toNat * 4

def tcpHeaderLength (pkt : Bytes) : Nat := (byteAt pkt (headerLength pkt + 12) >>> 4).toNat * 4

def ReachesTcp (pkt : Bytes) : Prop :=
  20 ≤ pkt.length ∧ byteAt pkt 0 >>> 4 = 4 ∧ byteAt pkt 9 = 6 ∧ headerLength pkt + 20 ≤ pkt.length

instance (pkt : Bytes) : Decidable (ReachesTcp pkt) := inferInstanceAs (Decidable (_ ∧ _))

def Framed (pkt : Bytes) : Prop := ReachesTcp pkt → 20 ≤ tcpHeaderLength pkt ∧
  headerLength pkt + tcpHeaderLength pkt ≤ pkt.length

instance (pkt : Bytes) : Decidable (Framed pkt) := inferInstanceAs (Decidable (_ → _))

/-
  No read panics, whatever the tables hold, and the payload of a segment lies behind a TCP header
  of 20 bytes or more.
-/
def Robust (pkt : Bytes) : Prop := ∀ tables, ∃ handled, Checked.serve tables pkt = some handled ∧
  ∀ seg chunk, handled = .tcp seg chunk → ∃ header, 20 ≤ header ∧
    headerLength pkt + header ≤ pkt.length ∧
    seg.payload = pkt.drop (headerLength pkt + header)

variable {pkt : Bytes}

lemma dispatch_of_reachesTcp (hTcp : ReachesTcp pkt) : ∃ inbound, dispatch pkt = .tcp inbound ∧
  inbound.packet = pkt ∧ inbound.ihl = headerLength pkt := by
  rcases hTcp with ⟨hLength, hVersion, hProto, -⟩
  rw [dispatch, if_neg (Nat.not_lt_of_le hLength), if_neg (not_not_intro hVersion), if_pos hProto]
  exact ⟨_, rfl, rfl, rfl⟩

lemma handled_of_not_reachesTcp (hTcp : ¬ ReachesTcp pkt) (tables : Checked.Tables) :
  ∃ handled, Checked.serve tables pkt = some handled ∧ ∀ seg chunk, handled ≠ .tcp seg chunk := by
  rw [Checked.serve_eq]
  unfold dispatch
  by_cases hShort : pkt.length < 20
  · rw [if_pos hShort]
    exact ⟨.ignored, rfl, by simp⟩
  · rw [if_neg hShort]
    by_cases hVersion : byteAt pkt 0 >>> 4 ≠ 4
    · rw [if_pos hVersion]
      exact ⟨.ignored, rfl, by simp⟩
    · rw [if_neg hVersion]
      by_cases hProto : byteAt pkt 9 = 6
      · rw [if_pos hProto]
        have hTooShort : pkt.length < headerLength pkt + 20 := by
          by_contra hLong
          exact hTcp ⟨by omega, not_not.mp hVersion, hProto, by omega⟩
        exact ⟨.ignored, if_pos hTooShort, by simp⟩
      · rw [if_neg hProto]
        by_cases hUdp : byteAt pkt 9 = 17
        · rw [if_pos hUdp]
          exact Checked.handleUdpSpawn_ne_none tables _
        · rw [if_neg hUdp]
          exact ⟨.ignored, rfl, by simp⟩

lemma parseTcp_of_reachesTcp (hTcp : ReachesTcp pkt)
  {inbound : Inbound} (hPacket : inbound.packet = pkt) (hIhl : inbound.ihl = headerLength pkt) :
  (pkt.length < headerLength pkt + tcpHeaderLength pkt ∧ parseTcp inbound = .panics) ∨
  (headerLength pkt + tcpHeaderLength pkt ≤ pkt.length ∧ ∃ seg, parseTcp inbound = .segment seg ∧
  seg.payload = pkt.drop (headerLength pkt + tcpHeaderLength pkt)) := by
  have hLong := hTcp.2.2.2
  rw [parseTcp, hPacket, hIhl, if_neg (by omega)]
  simp only [byteAt_drop, length_drop]
  rw [← tcpHeaderLength]
  by_cases hPanics : pkt.length - headerLength pkt < tcpHeaderLength pkt
  · rw [if_pos hPanics]
    exact .inl ⟨by omega, rfl⟩
  · rw [if_neg hPanics]
    refine .inr ⟨by omega, _, rfl, ?_⟩
    rw [drop_drop]

/-
  Packets: a packet is handled without a panic, with the payload behind a full TCP header, exactly
  if the header it declares is full and inside the packet.
-/
theorem robust_iff_framed
    (pkt : Bytes) :
    Robust pkt ↔ Framed pkt := by
  by_cases hTcp : ReachesTcp pkt
  · rcases dispatch_of_reachesTcp hTcp with ⟨inbound, hDispatch, hPacket, hIhl⟩
    have hServe : ∀ tables, Checked.serve tables pkt = Checked.handleTcp tables inbound := by
      intro tables
      rw [Checked.serve_eq, hDispatch]
    simp only [Robust, Framed, hServe, Checked.handleTcp_eq]
    rcases parseTcp_of_reachesTcp hTcp hPacket hIhl with
      ⟨hPast, hParse⟩ | ⟨hInside, seg, hParse, hPayload⟩
    · rw [hParse]
      constructor
      · intro hRobust
        rcases hRobust ⟨fun _ => none, fun _ => none⟩ with ⟨handled, hNone, -⟩
        cases hNone
      · intro hFramed
        exact absurd (hFramed hTcp).2 (Nat.not_le_of_lt hPast)
    · simp only [hParse]
      constructor
      · intro hRobust _
        rcases hRobust ⟨fun _ => none, fun _ => none⟩ with ⟨handled, hHandled, hCut⟩
        rcases map_eq_some_iff.mp hHandled with ⟨chunk, -, hEq⟩
        rcases hCut seg chunk hEq.symm with ⟨header, _, _, hDrop⟩
        -- the cut is where the lengths say it is
        have hLengths := congrArg List.length hDrop
        rw [hPayload, length_drop, length_drop] at hLengths
        exact ⟨by omega, hInside⟩
      · intro hFramed tables
        rcases Checked.chunkOf_ne_none tables seg with ⟨chunk, hChunk⟩
        refine ⟨.tcp seg chunk, by rw [hChunk]; rfl, ?_⟩
        intro seg' chunk' hEq
        cases hEq
        exact ⟨tcpHeaderLength pkt, (hFramed hTcp).1, hInside, hPayload⟩
  · refine ⟨fun _ hReaches => absurd hReaches hTcp, ?_⟩
    intro _ tables
    rcases handled_of_not_reachesTcp hTcp tables with ⟨handled, hHandled, hOther⟩
    exact ⟨handled, hHandled, fun seg chunk hEq => absurd hEq (hOther seg chunk)⟩

def longHeader : Bytes := [0x45, 0, 0, 40, 0, 0, 0x40, 0, 64, 6, 0, 0, 10, 0, 0, 2, 1, 1, 1, 1,
  0x9c, 0x40, 1, 187, 0, 0, 0, 100, 0, 0, 0, 0,
  0xf0, 0x02, 0xff, 0xff, 0, 0, 0, 0]

/- It ends the read loop. -/
theorem long_header_panics : ¬ ∀ pkt : Bytes, Robust pkt := by
  intro hAll
  rcases hAll longHeader ⟨fun _ => none, fun _ => none⟩ with ⟨handled, hHandled, -⟩
  have hPanics : (Checked.serve ⟨fun _ => none, fun _ => none⟩ longHeader).isNone := by
    decide +kernel
  rw [hHandled] at hPanics
  cases hPanics

end Kourosh.Tun2socks
