import Kourosh.Basic

/-
  The addresses of the netstack interface.

  `update_ip_addrs` of smoltcp panics if one of the new addresses is neither unicast nor
  unspecified; the result is then `none`.
-/

-- Interfaces

namespace Kourosh.Netstack

/- `smoltcp::wire::IpCidr`. -/
structure IpCidr where
  address : IpAddr
  prefixLen : UInt8

structure Interface where
  addrs : List IpCidr
  gatewayV4 : Option Ipv4Addr
  gatewayV6 : Option Ipv6Addr

/- `Interface::new`. -/
def Interface.new : Interface where
  addrs := []
  gatewayV4 := none
  gatewayV6 := none

def assignable : IpAddr → Bool
| .v4 ip => !(ip == ⟨255, 255, 255, 255⟩) && !(224 ≤ ip.a && ip.a ≤ 239)
| .v6 ip => !(ip.bits.extractLsb' 120 8 == 255#8)

def routablePrefixV4 (p : UInt8) : UInt8 := if p ≥ 31 then 24 else p

def routablePrefixV6 (p : UInt8) : UInt8 := if p ≥ 127 then 64 else p

def gatewayOfV4 (ip : Ipv4Addr) : Ipv4Addr := { ip with d := if ip.d == 1 then 2 else 1 }

def gatewayOfV6 (ip : Ipv6Addr) : Ipv6Addr where
  bits := ip.bits.extractLsb' 8 120 ++ (if ip.bits.extractLsb' 0 8 == 1#8 then 2#8 else 1#8)

def addrsOf (v4 : Option (Ipv4Addr × UInt8)) (v6 : Option (Ipv6Addr × UInt8)) : List IpCidr :=
  (v4.map fun a => ⟨.v4 a.1, routablePrefixV4 a.2⟩).toList ++ (v6.map fun a =>
    ⟨.v6 a.1, routablePrefixV6 a.2⟩).toList

def applyAddrs (iface : Interface) (v4 : Option (Ipv4Addr × UInt8))
  (v6 : Option (Ipv6Addr × UInt8)) : Option Interface :=
  if (addrsOf v4 v6).all fun cidr => assignable cidr.address
  then
    some
      { addrs := addrsOf v4 v6
        gatewayV4 :=
          match v4 with
          | some a => some (gatewayOfV4 a.1)
          | none => iface.gatewayV4
        gatewayV6 :=
          match v6 with
          | some a => some (gatewayOfV6 a.1)
          | none => iface.gatewayV6 }
  else none

/- The interface `spawn` starts with. -/
def spawn (v4 : Option (Ipv4Addr × UInt8))
  (v6 : Option (Ipv6Addr × UInt8)) : Option Interface := applyAddrs .new v4 v6

end Kourosh.Netstack
