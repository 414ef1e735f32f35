import Kourosh.Basic

/-
  Packets read from the TUN device.

  The read loop looks at the IP header and passes TCP packets on.
-/

-- The Read Loop

namespace Kourosh.Tun2socks

open List

def ipFromBytes (b : Bytes) : Ipv4Addr where
  a := byteAt b 0
  b := byteAt b 1
  c := byteAt b 2
  d := byteAt b 3

structure Inbound where
  packet : Bytes
  ihl : Nat
  srcIp : Ipv4Addr
  dstIp : Ipv4Addr

inductive Dispatch where
  | skip
  | tcp (inbound : Inbound)
  | udp (inbound : Inbound)

/- The body of the read loop in `serve`. -/
def dispatch (packet : Bytes) : Dispatch :=
  if packet.length < 20 then .skip
  else if byteAt packet 0 >>> 4 ≠ 4 then .skip
  else
    let inbound : Inbound :=
      { packet
        ihl := (byteAt packet 0 &&& 0x0f).toNat * 4
        srcIp := ipFromBytes ((packet.drop 12).take 4)
        dstIp := ipFromBytes ((packet.drop 16).take 4) }
    if byteAt packet 9 = 6 then .tcp inbound
    else if byteAt packet 9 = 17 then .udp inbound else .skip

-- TCP Segments

def tcpFlags (buf : Bytes) (ihl : Nat) : Bool × Bool × Bool :=
  if buf.length < ihl + 14 then (false, false, false)
  else
    let flags := byteAt buf (ihl + 13)
    (flags &&& 0x02 != 0, flags &&& 0x10 != 0, flags &&& 0x01 != 0)

def isRstFlag (tcp : Bytes) : Bool := tcp.length > 13 && byteAt tcp 13 &&& 0x04 != 0

structure Segment where
  srcIp : Ipv4Addr
  dstIp : Ipv4Addr
  sport : UInt16
  dport : UInt16
  seqNum : UInt32
  isSyn : Bool
  isAck : Bool
  isFin : Bool
  isRst : Bool
  payload : Bytes
deriving DecidableEq

namespace Segment

def dst (seg : Segment) : SocketAddrV4 where
  ip := seg.dstIp
  port := seg.dport

/- `seq_num.wrapping_add(payload_len as u32)`. -/
def stop (seg : Segment) : UInt32 := seg.seqNum + UInt32.ofNat seg.payload.length

def closes (seg : Segment) : Bool := seg.isFin || seg.isRst

def opens (seg : Segment) : Bool := !seg.closes && seg.isSyn

def carriesData (seg : Segment) : Bool :=
  !seg.closes && !seg.isSyn && seg.isAck && seg.payload.length > 0

end Segment

inductive Parsed where
  | short
  | panics
  | segment (seg : Segment)

/- The reads at the top of `handle_tcp`. -/
def parseTcp (i : Inbound) : Parsed :=
  if i.packet.length < i.ihl + 20 then .short
  else
    let tcp := i.packet.drop i.ihl
    let tcpHdrLen := (byteAt tcp 12 >>> 4).toNat * 4
    let (isSyn, isAck, isFin) := tcpFlags i.packet i.ihl
    if tcp.length < tcpHdrLen then
      -- the start of `tcp[tcp_hdr_len..]` is out of range
      .panics
    else
      .segment
        { srcIp := i.srcIp
          dstIp := i.dstIp
          sport := u16FromBe (byteAt tcp 0) (byteAt tcp 1)
          dport := u16FromBe (byteAt tcp 2) (byteAt tcp 3)
          seqNum := u32FromBe (byteAt tcp 4) (byteAt tcp 5) (byteAt tcp 6) (byteAt tcp 7)
          isSyn
          isAck
          isFin
          isRst := isRstFlag tcp
          payload := tcp.drop tcpHdrLen }

def segmentOf (packet : Bytes) : Option Segment :=
  match dispatch packet with
  | .tcp inbound =>
    match parseTcp inbound with
    | .segment seg => some seg
    | _ => none
  | _ => none

-- Every Segment Can Arrive

namespace Segment

def flags (seg : Segment) : UInt8 := (if seg.isFin then 0x01 else 0) |||
  (if seg.isSyn then 0x02 else 0) ||| (if seg.isRst then 0x04 else 0) |||
  (if seg.isAck then 0x10 else 0)

def tcpBytes (seg : Segment) : Bytes :=
  u16ToBe seg.sport ++ (u16ToBe seg.dport ++
    (u32ToBe seg.seqNum ++ ([0, 0, 0, 0, 0x50, seg.flags, 0xff, 0xff, 0, 0, 0, 0] ++ seg.payload)))

def encode (seg : Segment) : Bytes :=
  [0x45, 0, 0, 0, 0, 0, 0x40, 0, 64, 6, 0, 0, seg.srcIp.a, seg.srcIp.b,
    seg.srcIp.c, seg.srcIp.d, seg.dstIp.a, seg.dstIp.b, seg.dstIp.c, seg.dstIp.d] ++ seg.tcpBytes

variable (seg : Segment)

lemma length_tcpBytes : seg.tcpBytes.length = 20 + seg.payload.length := by
  simp [tcpBytes, u16ToBe, u32ToBe]
  omega

lemma length_encode : seg.encode.length = 40 + seg.payload.length := by
  simp [encode, length_tcpBytes]
  omega

lemma dispatch_encode : dispatch seg.encode = .tcp
  { packet := seg.encode, ihl := 20, srcIp := seg.srcIp, dstIp := seg.dstIp } := by
  have hLength : ¬ seg.encode.length < 20 := by
    rw [length_encode]
    omega
  have hVersion : byteAt seg.encode 0 = 0x45 := rfl
  have hProto : byteAt seg.encode 9 = 6 := rfl
  rw [dispatch, if_neg hLength, hVersion, hProto]
  rfl

lemma tcpFlags_encode : tcpFlags seg.encode 20 = (seg.isSyn, seg.isAck, seg.isFin) := by
  have hLength : ¬ seg.encode.length < 20 + 14 := by
    rw [length_encode]
    omega
  have hFlags : byteAt seg.encode (20 + 13) = seg.flags := rfl
  simp only [tcpFlags, if_neg hLength, hFlags, flags]
  cases seg.isSyn <;> cases seg.isAck <;>
    cases seg.isFin <;> cases seg.isRst <;> rfl

lemma isRstFlag_tcpBytes : isRstFlag seg.tcpBytes = seg.isRst := by
  have hLength : seg.tcpBytes.length > 13 := by
    rw [length_tcpBytes]
    omega
  have hFlags : byteAt seg.tcpBytes 13 = seg.flags := rfl
  simp only [isRstFlag, hLength, hFlags, flags, decide_true, Bool.true_and]
  cases seg.isSyn <;> cases seg.isAck <;>
    cases seg.isFin <;> cases seg.isRst <;> rfl

lemma parseTcp_encode : parseTcp
  { packet := seg.encode, ihl := 20, srcIp := seg.srcIp, dstIp := seg.dstIp } = .segment seg := by
  have hLength : ¬ seg.encode.length < 20 + 20 := by
    rw [length_encode]
    omega
  have hTcp : seg.encode.drop 20 = seg.tcpBytes := rfl
  have hHeader : (byteAt seg.tcpBytes 12 >>> 4).toNat * 4 = 20 := by
    have hByte : byteAt seg.tcpBytes 12 = 0x50 := rfl
    rw [hByte]
    decide
  have hPayload : seg.tcpBytes.drop 20 = seg.payload := rfl
  have hShort : ¬ seg.tcpBytes.length < 20 := by
    rw [length_tcpBytes]
    omega
  have hSport := u16FromBe_toBe seg.sport
  have hDport := u16FromBe_toBe seg.dport
  have hSeq := u32FromBe_toBe seg.seqNum
  simp only [parseTcp,
    if_neg hLength, hTcp, tcpFlags_encode, hHeader, if_neg hShort, hPayload, isRstFlag_tcpBytes]
  simp only [byteAt, tcpBytes, u16ToBe, u32ToBe, cons_append,
    nil_append, getD_cons_zero, getD_cons_succ, hSport, hDport, hSeq]

lemma segmentOf_encode : segmentOf seg.encode = some seg := by
  simp only [segmentOf, dispatch_encode, parseTcp_encode]

end Segment

end Kourosh.Tun2socks
