import Kourosh.Basic
import Kourosh.RemotePolicy.Remote

/-
  The routing rules of a Smart Split tunnel.

  The rules are a list, and the first one that applies to a flow names its outbound.
-/

-- Flows And Rules

namespace Kourosh.Shard

inductive Inbound where
  -- `in` and `in-http`
  | socks
  | http
  -- the two resolvers of the proxy itself
  | doh
  | shardDns
deriving DecidableEq

inductive Outbound where
  | proxy
  | blackhole
  | directFrag
  | directPlain
  | dnsOut
deriving DecidableEq

inductive Network where
  | tcp
  | udp
deriving DecidableEq

inductive Protocol where
  | tls
  | http
  | quic
deriving DecidableEq

structure Flow where
  inboundTag : Inbound
  network : Network
  port : Nat
  protocol : Option Protocol
  domain : Option Text
  address : Option IpAddr

structure Rule where
  inboundTag : List Inbound := []
  domain : List Text := []
  ip : List Text := []
  port : List Nat := []
  network : List Network := []
  protocol : List Protocol := []
  outboundTag : Outbound

structure Tables where
  geosite : Text → Text → Bool
  -- a tag of addresses or a block of them
  addresses : Text → IpAddr → Bool
  -- an entry of another form, for names
  other : Text → Text → Bool

def isUnder (parent name : Text) : Bool := name == parent || ('.' :: parent).isSuffixOf name

def matchesDomain (tables : Tables) (name entry : Text) : Bool :=
  match Text.stripFront "full:" entry, Text.stripFront "domain:" entry,
    Text.stripFront "geosite:" entry with
  | some host, _, _ => name == host
  | none, some parent, _ => isUnder parent name
  | none, none, some tag => tables.geosite tag name
  | none, none, none => tables.other entry name

def nameIn (tables : Tables) (flow : Flow) (entries : List Text) : Bool :=
  flow.domain.any fun name => entries.any (matchesDomain tables name)

def addressIn (tables : Tables) (flow : Flow) (entries : List Text) : Bool :=
  flow.address.any fun address => entries.any fun entry => tables.addresses entry address

def Rule.applies (tables : Tables) (flow : Flow) (rule : Rule) : Bool :=
  (rule.inboundTag.isEmpty || rule.inboundTag.contains flow.inboundTag) &&
    (rule.domain.isEmpty || nameIn tables flow rule.domain) &&
    (rule.ip.isEmpty || addressIn tables flow rule.ip) && (rule.port.isEmpty ||
    rule.port.contains flow.port) && (rule.network.isEmpty || rule.network.contains flow.network) &&
    (rule.protocol.isEmpty || flow.protocol.any rule.protocol.contains)

def route (tables : Tables) (rules : List Rule) (flow : Flow) : Option Outbound :=
  (rules.find? (Rule.applies tables flow)).map Rule.outboundTag

-- Names In The Rules

def sanctionedDomains : List Text :=
  ["geosite:openai", "geosite:anthropic", "geosite:xai",
    "geosite:google-deepmind", "domain:clients6.google.com",
    "full:content.googleapis.com", "geosite:telegram",
    "geosite:whatsapp"].map String.toList

def googleSessionHosts : List Text :=
  ["full:accounts.google.com", "full:www.google.com", "full:ogs.google.com"].map String.toList

def geoBlockedRuleHosts (policy : RemotePolicy.Policy) : List Text :=
  policy.geoBlocked.map fun host => "full:".toList ++ host

def sanctionedRule (entry : Text) : Text :=
  if RemotePolicy.isWildcard entry then "domain:".toList ++ entry.drop 2
  else "full:".toList ++ entry

def sanctionedRuleDomains (policy : RemotePolicy.Policy) : List Text :=
  sanctionedDomains ++ policy.sanctioned.map sanctionedRule

/- `ShardProbe.TARGETS`: a host and the port it is asked on. -/
def probeTargets : List (Text × Nat) :=
  [("cp.cloudflare.com".toList, 80), ("www.gstatic.com".toList, 80),
    ("captive.apple.com".toList, 80)]

def probeRuleHosts : List Text := probeTargets.map fun target => "full:".toList ++ target.1

def probeRulePorts : List Nat := (probeTargets.map Prod.snd).dedup.mergeSort

def metaDomains : List Text := ["geosite:instagram", "geosite:facebook"].map String.toList

def transportIps : List Text :=
  ["geoip:telegram", "geoip:facebook", "15.197.128.0/17", "3.33.128.0/17"].map String.toList

def iranianDomains : List Text := ["domain:ir", "geosite:category-ir"].map String.toList

-- The Table

def dnsRules : List Rule :=
  [{ inboundTag := [.doh], outboundTag := .directFrag },
    { inboundTag := [.shardDns], outboundTag := .proxy },
    { port := [53], outboundTag := .dnsOut }]

def nodeRules (policy : RemotePolicy.Policy) : List Rule :=
  [ { domain := probeRuleHosts, network := [.tcp], port := probeRulePorts, outboundTag := .proxy },
    { domain := sanctionedRuleDomains policy, outboundTag := .proxy },
    { domain := googleSessionHosts, network := [.tcp], port := [443], outboundTag := .proxy },
    { domain := geoBlockedRuleHosts policy, network := [.tcp], port := [443],
      outboundTag := .proxy }]

def listRules : List Rule :=
  [ { domain := metaDomains, network := [.udp], port := [443], outboundTag := .blackhole },
    { domain := metaDomains, outboundTag := .directFrag },
    { ip := transportIps, outboundTag := .proxy },
    { domain := iranianDomains, outboundTag := .directPlain },
    { ip := ["geoip:ir", "geoip:private"].map String.toList, outboundTag := .directPlain },
    { ip := ["10.10.34.0/24".toList], outboundTag := .blackhole }]

def restRules : List Rule :=
  [ { network := [.udp], port := [443], outboundTag := .blackhole },
    { network := [.tcp], protocol := [.tls], outboundTag := .directFrag },
    { network := [.tcp], port := [443], outboundTag := .directFrag },
    { network := [.tcp], outboundTag := .directPlain },
    { network := [.udp], outboundTag := .directPlain }]

def smartSplitRules (policy : RemotePolicy.Policy) : List Rule :=
  dnsRules ++ nodeRules policy ++ listRules ++ restRules

end Kourosh.Shard
