import Kourosh.Api.Response
import Kourosh.Config.Identity
import Kourosh.Ffi.Stopping
import Kourosh.Masque.Encapsulation
import Kourosh.Masque.Recovery
import Kourosh.Masque.Synchronisation
import Kourosh.Netstack.Assignment
import Kourosh.Netstack.Upload
import Kourosh.Profiles.Independence
import Kourosh.Quic.Readiness
import Kourosh.RemotePolicy.LastGood
import Kourosh.Shard.Ownership
import Kourosh.Shard.Sessions
import Kourosh.Shard.Shadowing
import Kourosh.SmartDns.Dialling
import Kourosh.SmartDns.Sockets
import Kourosh.Socks.Decision
import Kourosh.Socks.Spelling
import Kourosh.Traffic.Months
import Kourosh.Tun.Mss
import Kourosh.Tun2socks.Destination
import Kourosh.Tun2socks.DnsCache
import Kourosh.Tun2socks.HalfClose
import Kourosh.Tun2socks.Ownership
import Kourosh.Udpgw.Delivery
import Kourosh.Vpn.Chase
import Kourosh.Vpn.KillSwitch
import Kourosh.Vpn.Strategies
import Kourosh.Vpn.Supersession
import Kourosh.Wireguard.MtuHint
import Kourosh.Socks.Forwarding
import Kourosh.Socks.Targets
import Kourosh.Tun.ExitProbe
import Kourosh.Socks.Announced
import Kourosh.Socks.Resolver
import Kourosh.ZeroTrust.SignIn
import Kourosh.Masque.Refusals
import Kourosh.Scan.WgQueue
import Kourosh.Netstack.Ports
import Kourosh.Wireguard.Ladder
import Kourosh.Profiles.Migration
import Kourosh.Shard.Mirror
import Kourosh.Shard.Subscription
import Kourosh.Shard.Budget
import Kourosh.Tun2socks.AddressPlan
