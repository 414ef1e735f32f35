import Kourosh.Lib.Text
import Kourosh.SmartDns.Engine

/-
  Resolver entries as the user writes them.

  Text is a list of characters here.
-/

-- Entries

namespace Kourosh.SmartDns

open Text DnsEndpoint
open List

def rsplitOnceColon (text : List Char) : Option (List Char × List Char) :=
  let port := text.reverse.takeWhile (· ≠ ':')
  if port.length = text.length then none
  else some (text.take (text.length - port.length - 1), port.reverse)

lemma rsplitOnceColon_of_not_mem {text : List Char} (hNone : ':' ∉ text) :
  rsplitOnceColon text = none := by
  have hAll : text.reverse.takeWhile (· ≠ ':') = text.reverse := by
    rw [takeWhile_eq_self_iff]
    intro c hMem
    rw [decide_eq_true_iff]
    rintro rfl
    exact hNone (mem_reverse.mp hMem)
  rw [rsplitOnceColon, hAll]
  exact if_pos (length_reverse)

lemma rsplitOnceColon_append_cons {host port : List Char}
  (hPort : ':' ∉ port) : rsplitOnceColon (host ++ ':' :: port) = some (host, port) := by
  have hBack : (host ++ ':' :: port).reverse.takeWhile (· ≠ ':') = port.reverse := by
    rw [reverse_append, reverse_cons, append_assoc, singleton_append]
    exact takeWhile_append_cons (fun hMem => hPort (mem_reverse.mp hMem))
  rw [rsplitOnceColon, hBack]
  simp only [length_reverse, length_append, length_cons, reverse_reverse]
  rw [if_neg (by omega)]
  have hLength : host.length + (port.length + 1) - port.length - 1 = host.length := by omega
  rw [hLength, take_left]

def portBehind (text : List Char) : Option UInt16 := (stripFront ":" text).bind parseU16

/- `host` or `host:port`, as it is without brackets. -/
def splitUnbracketed (raw : List Char) (defaultPort : UInt16) : List Char × UInt16 :=
  if raw.count ':' = 1 then
    match rsplitOnceColon raw with
    | none => (raw, defaultPort)
    | some (host, port) => (host, (parseU16 port).getD defaultPort)
  else
    -- no port, or a bare IPv6 address
    (raw, defaultPort)

def splitHostPort (raw : List Char) (defaultPort : UInt16) : List Char × UInt16 :=
  match stripFront "[" raw with
  | none => splitUnbracketed raw defaultPort
  | some rest =>
    if rest.contains ']' then
      (rest.takeWhile (· ≠ ']'), (portBehind ((rest.dropWhile (· ≠ ']')).drop 1)).getD defaultPort)
    else splitUnbracketed raw defaultPort

def hostOf (urlish : List Char) : List Char :=
  let authority := urlish.takeWhile fun c => c ≠ '/' && c ≠ '?' && c ≠ '#'
  (authority.reverse.takeWhile (· ≠ '@')).reverse

/- `text.contains("://")`. -/
def containsScheme : List Char → Bool
| [] => false
| c :: rest => "://".toList.isPrefixOf (c :: rest) || containsScheme rest

namespace DnsEndpoint

def ofDot (rest : List Char) : DnsEndpoint :=
  let host := (splitHostPort rest 853).1
  { address := host, transport := .dot, name := some host }

def parse (raw : List Char) : Option DnsEndpoint :=
  let raw := trim raw
  if raw.isEmpty then none
  else
    let lower := raw.map Char.toLower
    match (stripFront "https://" lower).or (stripFront "doh://" lower) with
    | some rest =>
      some { address := "https://".toList ++ rest, transport := .doh, name := some (hostOf rest) }
    | none =>
      match (stripFront "tls://" lower).or (stripFront "dot://" lower) with
      | some rest => some (ofDot rest)
      | none =>
        match stripFront "doh:" lower with
        | some rest =>
          let host := (splitHostPort rest 443).1
          some
            { address := "https://".toList ++ host ++ "/dns-query".toList
              transport := .doh
              name := some host }
        | none =>
          match stripFront "dot:" lower with
          | some rest => some (ofDot rest)
          | none =>
            let host := (splitHostPort raw dnsPort).1
            if containsScheme host || host.contains '/' || host.isEmpty then none
            else
              some { address := host, transport := .plain, name := none }

lemma parse_trim (raw : List Char) : parse (trim raw) = parse raw := by
  simp only [parse, trim_trim]

lemma trim_ne_nil_of_parse
  {raw : List Char} {ep : DnsEndpoint} (hParse : parse raw = some ep) : trim raw ≠ [] := by
  intro hNil
  simp [parse, hNil] at hParse

end DnsEndpoint

-- Lists Of Entries

def isSeparator (c : Char) : Bool := c == ',' || c == ';' || c == ' ' || c == '\n' || c == '\r'

def parseList (list : List Char) : List DnsEndpoint :=
  (list.splitOnP isSeparator).filterMap DnsEndpoint.parse

def entries (lists : List (List Char)) : List (List Char) :=
  ((lists.flatMap fun list => list.splitOnP isSeparator).map trim).filter
    fun entry => !entry.isEmpty

/- Taking the blanks away first loses no endpoint. -/
lemma filterMap_parse_entries (lists : List (List Char)) :
  (entries lists).filterMap parse = lists.flatMap parseList := by
  have hEntry : ∀ raw : List Char, (if !(trim raw).isEmpty then
          parse (trim raw)
        else none) =
        parse raw := by
    intro raw
    rw [parse_trim]
    split
    · rfl
    next hEmpty =>
      cases hParse : parse raw with
      | none => rfl
      | some =>
        have hText := trim_ne_nil_of_parse hParse
        simp [hText] at hEmpty
  unfold entries parseList
  rw [filterMap_filter, filterMap_map, filterMap_flatMap]
  simp only [Function.comp_def, hEntry]

end Kourosh.SmartDns
