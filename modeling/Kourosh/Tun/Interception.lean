import Kourosh.SmartDns.Identity
import Kourosh.SmartDns.Startup
import Kourosh.Tun.Extensions

/-
  DNS interception on the TUN device.

  With smart DNS on, the bridge looks for a Gemini query behind the IP header of every packet.

  Correctness is proven by:
    * `framed_iff`
-/

-- The Bridge

namespace Kourosh.Tun

open SmartDns SmartDnsSplit

inductive Outcome where
  | forwarded (packet : Bytes)
  | answered (reply : Bytes)

variable (packet : Bytes)

def parseHeader : Option (Nat × UInt8) :=
  match parseIpv4Header packet with
  | some len => some (len, 4)
  | none => (parseIpv6Header packet).map fun offset => (offset, 6)

def replyHeader (ipver : UInt8) (udpLen : Nat) : Bytes :=
  if ipver = 6 then
    [0x60, 0x00, 0x00, 0x00] ++ u16ToBe (UInt16.ofNat udpLen) ++ [17, 64] ++
      slice packet 24 40 ++ slice packet 8 24
  else
    let header := [0x45, 0x00] ++ u16ToBe (UInt16.ofNat (20 + udpLen)) ++
      [0x00, 0x00, 0x40, 0x00, 0x40, 0x11, 0x00, 0x00] ++
      slice packet 16 20 ++ slice packet 12 16
    splice header 10 (u16ToBe (foldChecksum (onesComplementSum header 0)))

def pseudoSum (header : Bytes) (ipver : UInt8) (udpLen : Nat) : UInt32 :=
  if ipver = 6 then
    onesComplementSum (slice header 24 40) (onesComplementSum (slice header 8 24) 0) +
      UInt32.ofNat udpLen + 17
  else onesComplementSum (slice header 12 20) 0 + 17 + UInt32.ofNat udpLen

def buildReply (hdrLen : Nat) (ipver : UInt8) (payload : Bytes) : Bytes :=
  let udpLen := 8 + payload.length
  let header := replyHeader packet ipver udpLen
  let udp := u16ToBe (u16At packet (hdrLen + 2)) ++ u16ToBe (u16At packet hdrLen) ++
    u16ToBe (UInt16.ofNat udpLen) ++ [0x00, 0x00] ++ payload
  let sum := foldChecksum (onesComplementSum udp (pseudoSum header ipver udpLen))
  header ++ splice udp 6 (u16ToBe (if sum = 0 then 0xffff else sum))

/-
  The interception: the answer of the engine, if there is an engine and the bytes behind the
  header are a query for it.
-/
def intercept (lib : Libraries) (env : Environment) (cell : EngineCell)
  (packet : Bytes) : Option Bytes × EngineCell :=
  match parseHeader packet, cell with
  | some (hdrLen, ipver), some engine =>
    if packet.length ≥ hdrLen + 8 ∧ u16At packet (hdrLen + 2) = 53 ∧ packet.length - hdrLen > 8 then
      let answered := engine.processQuery lib env packet hdrLen
      (answered.1.map fun answer => buildReply packet hdrLen ipver answer.1, some answered.2)
    else (none, cell)
  | _, _ => (none, cell)

def onRead (lib : Libraries) (env : Environment) (maxInner : Nat)
  (smartDns : Bool) (cell : EngineCell) (packet : Bytes) : Outcome × EngineCell :=
  let outbound := clamped packet maxInner
  if smartDns then
    let intercepted := intercept lib env cell outbound
    match intercepted.1 with
    | some reply => (.answered reply, intercepted.2)
    | none => (.forwarded outbound, intercepted.2)
  else (.forwarded outbound, cell)

-- Datagrams

/- The extension headers in front of a UDP header. -/
inductive UdpChain (packet : Bytes) : UInt8 → Nat → Nat → Prop where
  | udp (offset : Nat) : UdpChain packet 17 offset offset
  | options {next : UInt8} {offset start : Nat} (hKind : next = 0 ∨ next = 43 ∨ next = 60)
    (hRest : UdpChain packet (byteAt packet offset) (behind packet offset) start) :
    UdpChain packet next offset start
  | whole {offset start : Nat} (hReserved : byteAt packet (offset + 1) = 0)
    (hFirst : byteAt packet (offset + 2) = 0) (hLast : byteAt packet (offset + 3) = 0)
    (hRest : UdpChain packet (byteAt packet offset) (offset + 8) start) :
    UdpChain packet 44 offset start

structure UdpOverIpv4 (packet : Bytes) (start : Nat) : Prop where
  version_eq : version packet = 4
  start_eq : start = ihl packet
  header_le : 20 ≤ start
  protocol_eq : byteAt packet 9 = 17
  -- the more flag and the offset
  fragment_high : byteAt packet 6 &&& 0x3f = 0
  fragment_low : byteAt packet 7 = 0

structure UdpOverIpv6 (packet : Bytes) (start : Nat) : Prop where
  version_eq : version packet = 6
  chain : UdpChain packet (byteAt packet 6) 40 start

def UdpAt (start : Nat) : Prop :=
  start + 8 ≤ packet.length ∧ (UdpOverIpv4 packet start ∨ UdpOverIpv6 packet start)

def GeminiAt (lib : Libraries) (packet : Bytes) (start : Nat) : Prop :=
  ∃ payload name qtype, SmartDnsSplit.question packet start = some (payload, name, qtype) ∧
    isGeminiDomain lib name = true

def questionCount (start : Nat) : UInt16 := u16At packet (start + 8 + 4)

def GeminiQuery (lib : Libraries) (packet : Bytes) : Prop :=
  ∃ start, UdpAt packet start ∧ GeminiAt lib packet start ∧ questionCount packet start ≠ 0

def Framed (lib : Libraries) (maxInner : Nat) (packet : Bytes) (outcome : Outcome) : Prop :=
  outcome = .forwarded (clamped packet maxInner) ∨
    (∃ reply, outcome = .answered reply) ∧ GeminiQuery lib packet

variable {packet : Bytes} {next : UInt8} {maxInner offset start : Nat}
variable {lib : Libraries} {env : Environment} {engine : SmartDnsSplit}
variable {cell : EngineCell}

section

variable (hChain : UdpChain packet next offset start)

include hChain

lemma extensions_of_udpChain :
  ∃ kinds, Extensions packet 17 start kinds next offset ∧ 51 ∉ kinds := by
  induction hChain with
  | udp => exact ⟨[], .done, List.not_mem_nil⟩
  | options hKind _ ih =>
    rcases ih with ⟨kinds, hRest, hPlain⟩
    refine ⟨_ :: kinds, .options (by simpa using hKind) hRest, ?_⟩
    rcases hKind with rfl | rfl | rfl
    all_goals simpa using hPlain
  | whole hReserved hFirst hLast _ ih =>
    rcases ih with ⟨kinds, hRest, hPlain⟩
    refine ⟨44 :: kinds, .fragment hReserved ?_ hRest, by simpa using hPlain⟩
    rw [u16At, hFirst, hLast]
    rfl

lemma ne_tcp_of_udpChain : next ≠ 6 := by
  cases hChain with
  | udp | whole => decide
  | options hKind =>
    rcases hKind with rfl | rfl | rfl
    all_goals decide

end

lemma clamped_of_udpAt (hUdp : UdpAt packet start) (maxInner : Nat) :
  clamped packet maxInner = packet := by
  apply clamped_of_tcpStart
  rcases hUdp with ⟨_, hV4 | hV6⟩
  · simp [tcpStart, hV4.version_eq, hV4.protocol_eq]
  · simp [tcpStart, hV6.version_eq, ne_tcp_of_udpChain hV6.chain]

lemma parseHeader_of_udpAt (hUdp : UdpAt packet start) :
  ∃ ipver, parseHeader packet = some (start, ipver) := by
  rcases hUdp with ⟨hFits, hV4 | hV6⟩
  · have hStart := hV4.start_eq
    have hLe := hV4.header_le
    have hParse : parseIpv4Header packet = some start := by
      rw [parseIpv4Header, if_neg (by omega), if_neg (not_not_intro hV4.version_eq),
        if_neg (by omega), hStart]
    exact ⟨4, by rw [parseHeader, hParse]⟩
  · rcases extensions_of_udpChain hV6.chain with ⟨kinds, hChain, hPlain⟩
    have hLe := le_of_extensions hChain
    have hNot : parseIpv4Header packet = none := by
      rw [parseIpv4Header, if_neg (by omega), if_pos]
      rw [hV6.version_eq]
      decide
    have hParse : parseIpv6Header packet = some start := by
      rw [parseIpv6Header, if_neg (by omega), if_neg (not_not_intro hV6.version_eq)]
      exact walkIpv6_of_extensions (fun _ => hFits) hChain hPlain rfl
    exact ⟨6, by rw [parseHeader, hNot, hParse]; rfl⟩

lemma bounds_of_geminiAt (hGemini : GeminiAt lib packet start) :
  packet.length ≥ start + 8 ∧ u16At packet (start + 2) = 53 ∧ packet.length - start > 8 := by
  rcases hGemini with ⟨payload, name, qtype, hQuestion, _⟩
  simp only [question] at hQuestion
  split at hQuestion
  · cases hQuestion
  · split at hQuestion
    · cases hQuestion
    next hLength hPort =>
      rw [not_or, not_not, List.length_drop] at hPort
      refine ⟨by omega, ?_, by omega⟩
      simp only [u16At, byteAt_drop] at hPort
      exact hPort.1

lemma processQuery_isSome_iff : (∃ answer,
  (engine.processQuery lib env packet start).1 = some answer) ↔ GeminiAt lib packet start := by
  constructor
  · rintro ⟨answer, hSome⟩
    simp only [processQuery] at hSome
    split at hSome
    · cases hSome
    next hAnswered =>
      rcases answered_eq_some_iff.mp hAnswered with ⟨payload, name, qtype, hQuestion, hGemini, -⟩
      exact ⟨payload, name, qtype, hQuestion, hGemini⟩
  · rintro ⟨payload, name, qtype, hQuestion, hGemini⟩
    rw [processQuery, answered_eq_some_iff.mpr ⟨payload, name, qtype, hQuestion, hGemini, rfl⟩]
    exact ⟨_, rfl⟩

lemma intercept_isSome_iff : (∃ reply, (intercept lib env (some engine) packet).1 = some reply) ↔
  ∃ start ipver, parseHeader packet = some (start, ipver) ∧ GeminiAt lib packet start := by
  cases hHeader : parseHeader packet with
  | none => simp [intercept, hHeader]
  | some header =>
    rcases header with ⟨start, ipver⟩
    simp only [intercept, hHeader]
    constructor
    · rintro ⟨reply, hSome⟩
      split at hSome
      · rcases Option.map_eq_some_iff.mp hSome with ⟨answer, hAnswer, _⟩
        exact ⟨start, ipver, rfl, processQuery_isSome_iff.mp ⟨answer, hAnswer⟩⟩
      · cases hSome
    · rintro ⟨start', ipver', hSame, hGemini⟩
      cases hSame
      rw [if_pos (bounds_of_geminiAt hGemini)]
      rcases processQuery_isSome_iff.mpr hGemini with ⟨answer, hAnswer⟩
      exact ⟨_, Option.map_eq_some_iff.mpr ⟨answer, hAnswer, rfl⟩⟩

lemma answered_iff : (∃ reply, (onRead lib env maxInner true cell packet).1 = .answered reply) ↔
  ∃ reply, (intercept lib env cell (clamped packet maxInner)).1 = some reply := by
  simp only [onRead, if_true]
  cases (intercept lib env cell (clamped packet maxInner)).1 with
  | none | some => simp

lemma forwarded_of_not_answered
  (hNot : ¬∃ reply, (onRead lib env maxInner true cell packet).1 = .answered reply) :
  (onRead lib env maxInner true cell packet).1 = .forwarded (clamped packet maxInner) := by
  cases hOutcome : (onRead lib env maxInner true cell packet).1 with
  | answered reply => exact absurd ⟨reply, hOutcome⟩ hNot
  | forwarded =>
    simp only [onRead, if_true] at hOutcome
    split at hOutcome
    · cases hOutcome
    · cases hOutcome
      rfl

/-
  With smart DNS on, a packet from the device goes on as it is but for the clamp, or it is a
  Gemini query and answered, exactly if what the parsers of the bridge take for a Gemini query
  stands in an unfragmented UDP datagram with a question.
-/
theorem framed_iff
    (lib : Libraries)
    (env : Environment)
    (maxInner : Nat)
    (cell : EngineCell)
    (packet : Bytes) :
    Framed lib maxInner packet (onRead lib env maxInner true cell packet).1 ↔
      (cell.isSome = true →
       ∀ start ipver,
         parseHeader (clamped packet maxInner) = some (start, ipver) →
         GeminiAt lib (clamped packet maxInner) start →
         UdpAt packet start ∧ questionCount packet start ≠ 0) := by
  constructor
  · intro hFramed hCell start ipver hHeader hGemini
    rcases Option.isSome_iff_exists.mp hCell with ⟨engine, rfl⟩
    have hAnswered :
      ∃ reply, (onRead lib env maxInner true (some engine) packet).1 = .answered reply :=
      answered_iff.mpr (intercept_isSome_iff.mpr ⟨start, ipver, hHeader, hGemini⟩)
    rcases hFramed with hForwarded | ⟨_, hQuery⟩
    · rcases hAnswered with ⟨reply, hReply⟩
      rw [hForwarded] at hReply
      cases hReply
    · rcases hQuery with ⟨start', hUdp, _, hCount⟩
      -- the parsers find the same start
      rcases parseHeader_of_udpAt hUdp with ⟨ipver', hSame⟩
      rw [clamped_of_udpAt hUdp, hSame] at hHeader
      cases hHeader
      exact ⟨hUdp, hCount⟩
  · intro hOnly
    by_cases hAnswered : ∃ reply, (onRead lib env maxInner true cell packet).1 = .answered reply
    · refine .inr ⟨hAnswered, ?_⟩
      cases cell with
      | none =>
        rcases answered_iff.mp hAnswered with ⟨reply, hReply⟩
        simp [intercept] at hReply
      | some =>
        rcases intercept_isSome_iff.mp (answered_iff.mp hAnswered) with
          ⟨start, ipver, hHeader, hGemini⟩
        rcases hOnly rfl start ipver hHeader hGemini with ⟨hUdp, hCount⟩
        rw [clamped_of_udpAt hUdp] at hGemini
        exact ⟨start, hUdp, hGemini, hCount⟩
    · exact .inl (forwarded_of_not_answered hAnswered)

/-
  A TCP segment to port 53 with an empty set of options: an acknowledgement whose data start like
  the name of a Gemini question.
-/
def tcpSegment : Bytes := [0x45, 0x00, 0x00, 0x3f, 0x00, 0x00, 0x40, 0x00, 0x40,
  0x06, 0x2e, 0xb6, 0x0a, 0x00, 0x00, 0x02, 0x01, 0x01,
  0x01, 0x01,
  0x30, 0x39, 0x00, 0x35, 0x00, 0x00, 0x00, 0x01, 0x00,
  0x00, 0x00, 0x01, 0x50, 0x10, 0xff, 0xff, 0x7c, 0xf4,
  0x00, 0x00] ++
  [0x06] ++ ascii "gemini" ++ [0x06] ++ ascii "google" ++
  [0x03] ++ ascii "com" ++ [0x00, 0x00, 0x01, 0x00, 0x01]

lemma not_udpAt_tcpSegment (start : Nat) : ¬UdpAt tcpSegment start := by
  rintro ⟨_, hV4 | hV6⟩
  · exact absurd hV4.protocol_eq (by decide)
  · exact absurd hV6.version_eq (by decide)

/- The bridge answers it instead of passing it on. -/
theorem tcp_segment_consumed : ¬Framed asciiLibraries 1280 tcpSegment
  (onRead asciiLibraries (SmartDnsSplit.silence 0) 1280 true (some .new) tcpSegment).1 := by
  have hAnswered : ((onRead asciiLibraries (silence 0)
    1280 true (some .new) tcpSegment).1 matches .answered _) := by decide +kernel
  rintro (hForwarded | ⟨_, start, hUdp, _⟩)
  · rw [hForwarded] at hAnswered
    cases hAnswered
  · exact not_udpAt_tcpSegment start hUdp

end Kourosh.Tun
