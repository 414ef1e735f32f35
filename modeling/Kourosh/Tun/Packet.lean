import Kourosh.Basic

/-
  IP packets of the TUN device: the two header parsers of the bridge, checksums, and the clamp of
  the MSS option.
-/

-- Headers

namespace Kourosh.Tun

variable (packet : Bytes)

/- `packet[i..].copy_from_slice(bytes)`. -/
def splice (i : Nat) (bytes : Bytes) : Bytes :=
  packet.take i ++ bytes ++ packet.drop (i + bytes.length)

/- `packet[i..j]`. -/
def slice (i j : Nat) : Bytes := (packet.drop i).take (j - i)

def version : UInt8 := byteAt packet 0 >>> 4

def ihl : Nat := (byteAt packet 0 &&& 0x0f).toNat * 4

def parseIpv4Header : Option Nat :=
  if packet.length < 20 then none
  else if version packet ≠ 4 then none
  else if ihl packet < 20 ∨ packet.length < ihl packet then none
  else some (ihl packet)

/- The headers the walk of `parse_ipv6_header` skips. -/
def isSkipped (next : UInt8) : Bool :=
  next = 0 || next = 43 || next = 44 || next = 50 || next = 51 || next = 60

def behind (offset : Nat) : Nat :=
  offset + 8 * ((byteAt packet (offset + 1)).toNat + 1)

/- The loop of `parse_ipv6_header`. -/
def walkIpv6 (packet : Bytes) (next : UInt8) (offset : Nat) : Option Nat :=
  if next = 17 then some offset
  else if isSkipped next then
    if offset + 2 > packet.length then none
    else if behind packet offset + 8 > packet.length then none
    else walkIpv6 packet (byteAt packet offset) (behind packet offset)
  else none
termination_by packet.length - offset
decreasing_by
  unfold behind at *
  omega

def parseIpv6Header : Option Nat :=
  if packet.length < 48 then none
  else if version packet ≠ 6 then none
  else walkIpv6 packet (byteAt packet 6) 40

-- Checksums

/- The sum is a `u32`, which wraps around. -/
def onesComplementSum : Bytes → UInt32 → UInt32
| [], sum => sum
| [b], sum => sum + b.toUInt32 <<< 8
| hi :: lo :: bytes, sum => onesComplementSum bytes (sum + (u16FromBe hi lo).toUInt32)

/- The loop of `fold_checksum`. -/
def foldSum (sum : Nat) : Nat :=
  if sum / 65536 = 0 then sum
  else foldSum (sum % 65536 + sum / 65536)
termination_by sum
decreasing_by omega

def foldChecksum (sum : UInt32) : UInt16 := ~~~(UInt16.ofNat (foldSum sum.toNat))

def recomputeTcpChecksum (ipHeaderLen : Nat) : Bytes :=
  let cleared := splice packet (ipHeaderLen + 16) [0, 0]
  let addresses :=
    if version packet = 4 then slice cleared 12 20
    else slice cleared 8 40
  let sum := onesComplementSum (cleared.drop ipHeaderLen)
    (onesComplementSum addresses 0 + 6 + UInt32.ofNat (packet.length - ipHeaderLen))
  splice cleared (ipHeaderLen + 16) (u16ToBe (foldChecksum sum))

-- The MSS Clamp

def ipTcpOverhead : Nat := 40 + 20

def tcpStart : Option Nat :=
  if packet = [] then none
  else if version packet = 4 then
    if packet.length < 20 ∨ byteAt packet 9 ≠ 6 then none
    else some (ihl packet)
  else if version packet = 6 then
    if packet.length < 40 ∨ byteAt packet 6 ≠ 6 then none
    else some 40
  else none

def findMss (packet : Bytes) (optionsEnd i : Nat) : Option Nat :=
  if i + 1 < optionsEnd then
    if byteAt packet i = 0 then none
    else if byteAt packet i = 1 then findMss packet optionsEnd (i + 1)
    else if byteAt packet i = 2 then
      if byteAt packet (i + 1) ≠ 4 ∨ i + 4 > optionsEnd then none
      else some i
    else if (byteAt packet (i + 1)).toNat < 2 then none
    else findMss packet optionsEnd (i + (byteAt packet (i + 1)).toNat)
  else none
termination_by optionsEnd - i

/- Lower the MSS option at `i`, if it is above the target. -/
def lowerMss (ipHeaderLen i : Nat) (target : UInt16) : Option Bytes :=
  if u16At packet (i + 2) ≤ target then none
  else some (recomputeTcpChecksum (splice packet (i + 2) (u16ToBe target)) ipHeaderLen)

def clampTcpMss (maxInner : Nat) : Option Bytes :=
  match tcpStart packet with
  | none => none
  | some tcp =>
    let dataOffset := (byteAt packet (tcp + 12) >>> 4).toNat * 4
    let target := maxInner - ipTcpOverhead
    if packet.length < tcp + 20 then none
    else if byteAt packet (tcp + 13) &&& 0x02 = 0 then none
    else if dataOffset < 20 ∨ packet.length < tcp + dataOffset then none
    else if target = 0 ∨ target > 65535 then none
    else
      (findMss packet (tcp + dataOffset) (tcp + 20)).bind
        fun i => lowerMss packet tcp i (UInt16.ofNat target)

def clamped (maxInner : Nat) : Bytes := (clampTcpMss packet maxInner).getD packet

lemma clamped_of_tcpStart {packet : Bytes}
  (hNone : tcpStart packet = none) (maxInner : Nat) : clamped packet maxInner = packet := by
  simp [clamped, clampTcpMss, hNone]

end Kourosh.Tun
