import Kourosh.Basic
import Kourosh.Lib.Text

/-
  Routing rules.

  A rule set has rules that block a destination and rules that send it around the proxy.
-/

-- Addresses

namespace Kourosh.Routing

/- `ipnet::IpNet`: an address and the length of its front. -/
inductive IpNet where
  | v4 (addr : Ipv4Addr) (frontLen : Fin 33)
  | v6 (addr : Ipv6Addr) (frontLen : Fin 129)

def sameNetwork {width : Nat} (frontLen : Nat) (a b : BitVec width) : Bool :=
  a >>> (width - frontLen) == b >>> (width - frontLen)

namespace IpNet

def contains : IpNet → IpAddr → Bool
| .v4 addr frontLen, .v4 ip => sameNetwork frontLen.val addr.toBits ip.toBits
| .v6 addr frontLen, .v6 ip => sameNetwork frontLen.val addr.bits ip.bits
| _, _ => false

def ofAddr : IpAddr → IpNet
| .v4 addr => .v4 addr 32
| .v6 addr => .v6 addr 128

end IpNet

def parseOctet (digits : List Char) : Option UInt8 := if digits.isEmpty || digits.length > 3 ||
  (digits.length > 1 && digits.head? == some '0') then none
  else
    match Text.parseDigits 0 digits with
    | none => none
    | some value => if value < 256 then some (UInt8.ofNat value) else none

/- `str::parse::<Ipv4Addr>`. -/
def parseIpv4 (text : List Char) : Option Ipv4Addr :=
  match (text.splitOn '.').map parseOctet with
  | [some a, some b, some c, some d] => some ⟨a, b, c, d⟩
  | _ => none

def isPrivate : IpAddr → Bool
| .v4 ip =>
  ip.isPrivate ||
    -- loopback
    ip.a == 127 ||
    -- link local
    (ip.a == 169 && ip.b == 254) ||
    -- broadcast
    ip.toBits == 0xFFFFFFFF ||
    -- documentation
    (ip.a == 192 && ip.b == 0 && ip.c == 2) ||
    (ip.a == 198 && ip.b == 51 && ip.c == 100) ||
    (ip.a == 203 && ip.b == 0 && ip.c == 113) ||
    -- unspecified
    ip.toBits == 0 ||
    (ip.a == 100 && 64 ≤ ip.b && ip.b < 128)
| .v6 ip =>
  -- the first of the eight segments
  let segment := ip.bits >>> 112
  ip.bits == 1 || ip.bits == 0 || segment &&& 0xFE00 == 0xFC00 || segment &&& 0xFFC0 == 0xFE80

-- Rules

inductive Action where
  | proxy
  | direct
  | block
deriving DecidableEq

inductive Host where
  | domain (name : List Char)
  | ip (ip : IpAddr)

inductive Matcher where
  | domainSuffix (suffix : List Char)
  | domainFull (full : List Char)
  | domainKeyword (needle : List Char)
  -- `Regex::as_str` and `Regex::is_match`
  | domainRegex (pattern : List Char) (isMatch : List Char → Bool)
  | net (range : IpNet)
  | ports (lo hi : UInt16)
  | priv

/- `str::eq_ignore_ascii_case`. -/
def sameIgnoringCase (a b : List Char) : Bool := a.map Char.toLower == b.map Char.toLower

def localhost : List Char := "localhost".toList

namespace Matcher

/- `Matcher::matches`. -/
def matchesHost
  (toLowercase : List Char → List Char) (rule : Matcher) (host : Host) (port : UInt16) : Bool :=
  match rule with
  | .ports lo hi => lo ≤ port && port ≤ hi
  | .priv =>
    match host with
    | .ip ip => isPrivate ip
    | .domain name => sameIgnoringCase name localhost
  | .net range =>
    match host with
    | .ip ip => range.contains ip
    | .domain _ => false
  | .domainSuffix suffix =>
    match host with
    | .domain name =>
      let name := toLowercase name
      name == suffix || ('.' :: suffix).isSuffixOf name
    | .ip _ => false
  | .domainFull full =>
    match host with
    | .domain name => sameIgnoringCase name full
    | .ip _ => false
  | .domainKeyword needle =>
    match host with
    | .domain name => decide (needle <:+: toLowercase name)
    | .ip _ => false
  | .domainRegex _ isMatch =>
    match host with
    | .domain name => isMatch name
    | .ip _ => false

def isDomainRule : Matcher → Bool
| .domainSuffix _ => true
| .domainFull _ => true
| .domainKeyword _ => true
| .domainRegex _ _ => true
| _ => false

end Matcher

structure RuleSet where
  block : List Matcher
  direct : List Matcher

namespace RuleSet

def hasDomainRules (rules : RuleSet) : Bool :=
  (rules.block ++ rules.direct).any Matcher.isDomainRule

def decide (toLowercase : List Char → List Char) (rules : RuleSet) (host : Host)
  (port : UInt16) : Action :=
  if rules.block.any (·.matchesHost toLowercase host port) then .block
  else if rules.direct.any (·.matchesHost toLowercase host port) then .direct
  else .proxy

end RuleSet

-- What A Rule Looks At

namespace Matcher

def onPort (port : UInt16) : Matcher → Bool
| .ports lo hi => lo ≤ port && port ≤ hi
| _ => false

def onAddress (ip : IpAddr) : Matcher → Bool
| .priv => isPrivate ip
| .net range => range.contains ip
| _ => false

def onName (toLowercase : List Char → List Char) (name : List Char) (rule : Matcher) : Bool :=
  rule.isDomainRule && rule.matchesHost toLowercase (.domain name) 0

variable {toLowercase : List Char → List Char}

lemma matchesHost_ip (rule : Matcher) (ip : IpAddr) (port : UInt16) :
  rule.matchesHost toLowercase (.ip ip) port = (rule.onPort port || rule.onAddress ip) := by
  cases rule <;> simp [matchesHost, onPort, onAddress]

/-
  On a name: the port rules and the domain rules, and the one rule for private addresses if the
  name is the local host's.
-/
lemma matchesHost_domain (rule : Matcher) (name : List Char)
  (port : UInt16) (hName : sameIgnoringCase name localhost = false) : rule.matchesHost toLowercase
  (.domain name) port = (rule.onPort port || rule.onName toLowercase name) := by
  cases rule <;>
    simp [matchesHost, onPort, onName, isDomainRule, hName]

end Matcher

namespace RuleSet

variable {toLowercase : List Char → List Char} {rules : RuleSet} {host : Host}
variable {port : UInt16}

lemma decide_eq_block_iff : rules.decide toLowercase host port = .block ↔
  rules.block.any (·.matchesHost toLowercase host port) := by
  unfold decide
  split
  next hBlock => exact ⟨fun _ => hBlock, fun _ => rfl⟩
  next hBlock =>
    refine ⟨?_, fun h => absurd h hBlock⟩
    intro hDecide
    split at hDecide <;> cases hDecide

lemma decide_eq_direct_iff : rules.decide toLowercase host port = .direct ↔
  rules.block.any (·.matchesHost toLowercase host port) = false ∧
  rules.direct.any (·.matchesHost toLowercase host port) := by
  unfold decide
  split
  next hBlock => simp [hBlock]
  next hBlock =>
    have hClear : rules.block.any (·.matchesHost toLowercase host port) = false := by
      simpa using hBlock
    split
    next hDirect => exact ⟨fun _ => ⟨hClear, hDirect⟩, fun _ => rfl⟩
    next hDirect =>
      refine ⟨fun h => ?_, fun h => absurd h.2 hDirect⟩
      cases h

lemma any_or {α : Type} (list : List α)
  (p q : α → Bool) : list.any (fun a => p a || q a) = (list.any p || list.any q) := by
  induction list with
  | nil => rfl
  | cons _ _ ih => simp [ih, Bool.or_assoc, Bool.or_left_comm]

variable (list : List Matcher)

lemma any_matchesHost_ip (ip : IpAddr) : list.any (·.matchesHost toLowercase
  (.ip ip) port) = (list.any (·.onPort port) || list.any (·.onAddress ip)) := by
  simp only [Matcher.matchesHost_ip, any_or]

lemma any_matchesHost_domain (name : List Char)
  (hName : sameIgnoringCase name localhost = false) : list.any (·.matchesHost toLowercase
  (.domain name) port) = (list.any (·.onPort port) || list.any (·.onName toLowercase name)) := by
  simp only [Matcher.matchesHost_domain _ _ _ hName, any_or]

end RuleSet

end Kourosh.Routing
