import Mathlib.Algebra.Group.Int.Defs
import Mathlib.Algebra.Ring.Nat
import Mathlib.Data.List.Basic

/-
  Data shared by the components of the tunnel core: byte strings, errors, the pointer width of the
  target, and network addresses.
-/

-- Bytes, Errors And The Target

namespace Kourosh

open List UInt8

abbrev Bytes := List UInt8

/- `buf[i]`, at an index the caller has checked. -/
def byteAt (buf : Bytes) (i : Nat) : UInt8 := buf.getD i 0

/- `u16::from_be_bytes`. -/
def u16FromBe (hi lo : UInt8) : UInt16 := UInt16.ofNat (hi.toNat * 256 + lo.toNat)

/- `u16::to_be_bytes`. -/
def u16ToBe (v : UInt16) : Bytes := [UInt8.ofNat (v.toNat / 256), UInt8.ofNat v.toNat]

/- `u16::from_be_bytes([buf[i], buf[i + 1]])`. -/
def u16At (buf : Bytes) (i : Nat) : UInt16 := u16FromBe (byteAt buf i) (byteAt buf (i + 1))

/- `u32::from_be_bytes`. -/
def u32FromBe (a b c d : UInt8) : UInt32 :=
  UInt32.ofNat (((a.toNat * 256 + b.toNat) * 256 + c.toNat) * 256 + d.toNat)

/- `u32::to_be_bytes`. -/
def u32ToBe (v : UInt32) : Bytes := [UInt8.ofNat (v.toNat / 16777216),
  UInt8.ofNat (v.toNat / 65536),
  UInt8.ofNat (v.toNat / 256), UInt8.ofNat v.toNat]

@[simp] lemma toNat_u16FromBe
  (hi lo : UInt8) : (u16FromBe hi lo).toNat = hi.toNat * 256 + lo.toNat := by
  have hHi := hi.toNat_lt
  have hLo := lo.toNat_lt
  rw [u16FromBe, UInt16.toNat_ofNat']
  omega

lemma u16FromBe_toBe
  (v : UInt16) : u16FromBe (ofNat (v.toNat / 256)) (ofNat v.toNat) = v := by
  apply UInt16.toNat_inj.mp
  have hLt := v.toNat_lt
  rw [toNat_u16FromBe, toNat_ofNat', toNat_ofNat']
  omega

lemma u32FromBe_toBe (v : UInt32) : u32FromBe (ofNat (v.toNat / 16777216))
  (ofNat (v.toNat / 65536)) (ofNat (v.toNat / 256)) (ofNat v.toNat) = v := by
  apply UInt32.toNat_inj.mp
  have hLt := v.toNat_lt
  simp only [u32FromBe, UInt32.toNat_ofNat', toNat_ofNat']
  omega

lemma u16FromBe_eq_iff {hi lo : UInt8} {v : UInt16} :
  u16FromBe hi lo = v ↔ u16ToBe v = [hi, lo] := by
  constructor
  · rintro rfl
    have hHi := hi.toNat_lt
    have hLo := lo.toNat_lt
    simp only [u16ToBe, toNat_u16FromBe, cons.injEq,
      and_true, ← UInt8.toNat_inj, UInt8.toNat_ofNat']
    omega
  · intro hBytes
    simp only [u16ToBe, cons.injEq, and_true] at hBytes
    rw [← hBytes.1, ← hBytes.2, u16FromBe_toBe]

lemma getElem?_eq_byteAt {buf : Bytes} {i : Nat} (hLt : i < buf.length) :
  buf[i]? = some (byteAt buf i) := by
  rw [byteAt, getD_eq_getElem?_getD, getElem?_eq_getElem hLt, Option.getD_some]

lemma byteAt_drop (buf : Bytes) (n i : Nat) : byteAt (buf.drop n) i = byteAt buf (n + i) := by
  simp [byteAt, getD_eq_getElem?_getD]

/- The variants of `AetherError` raised by modelled code. -/
inductive AetherError where
  | io (text : String)
  | capsule (text : String)
  | other (text : String)
deriving DecidableEq

/- Width of `usize`. -/
inductive Usize where
  | w32
  | w64

namespace Usize

def bits : Usize → Nat
| w32 => 32
| w64 => 64

/- `v as usize`. -/
def cast (t : Usize) (v : Nat) : Nat := v % 2 ^ t.bits

lemma cast_of_lt (t : Usize) {v : Nat} (hFits : v < 2 ^ t.bits) :
  t.cast v = v := Nat.mod_eq_of_lt hFits

end Usize

-- Addresses

/- `std::net::Ipv4Addr`, by its octets. -/
structure Ipv4Addr where
  a : UInt8
  b : UInt8
  c : UInt8
  d : UInt8
deriving DecidableEq

namespace Ipv4Addr

/- `Ipv4Addr::is_private`: the three RFC 1918 blocks. -/
def isPrivate (ip : Ipv4Addr) : Bool := ip.a == 10 ||
  (ip.a == 172 && 16 ≤ ip.b && ip.b ≤ 31) || (ip.a == 192 && ip.b == 168)

def toBits (ip : Ipv4Addr) : BitVec 32 :=
  ip.a.toBitVec ++ ip.b.toBitVec ++ ip.c.toBitVec ++ ip.d.toBitVec

end Ipv4Addr

/- A `SocketAddr` built from an IPv4 address. -/
structure SocketAddrV4 where
  ip : Ipv4Addr
  port : UInt16
deriving DecidableEq

/- `std::net::Ipv6Addr`, by its 128 bits. -/
structure Ipv6Addr where
  bits : BitVec 128
deriving DecidableEq

namespace Ipv6Addr

/- `Ipv6Addr::from` of the bytes in network order. -/
def ofBytes (bytes : Bytes) : Ipv6Addr where
  bits := BitVec.ofNat 128 (bytes.foldl (fun n b => n * 256 + b.toNat) 0)

def byteFromEnd (ip : Ipv6Addr) (i : Nat) : UInt8 := ⟨ip.bits.extractLsb' (8 * i) 8⟩

/- `Ipv6Addr::to_ipv4_mapped`: `::ffff:a.b.c.d` only. -/
def toIpv4Mapped (ip : Ipv6Addr) : Option Ipv4Addr :=
  if ip.bits.extractLsb' 32 96 = 0xffff#96 then
    some ⟨ip.byteFromEnd 3, ip.byteFromEnd 2, ip.byteFromEnd 1, ip.byteFromEnd 0⟩
  else none

end Ipv6Addr

inductive IpAddr where
  | v4 (ip : Ipv4Addr)
  | v6 (ip : Ipv6Addr)
deriving DecidableEq

/- `IpAddr::is_unspecified`. -/
def IpAddr.isUnspecified : IpAddr → Bool
| .v4 ip => ip == ⟨0, 0, 0, 0⟩
| .v6 ip => ip.bits == 0#128

structure SocketAddr where
  ip : IpAddr
  port : UInt16
deriving DecidableEq

end Kourosh
