import Kourosh.Lib.Utf8
import Kourosh.Routing.Rules

/-
  The host name announced by the first bytes of a stream.

  A TLS ClientHello carries it in its server name extension, an HTTP request in a header.
-/

-- Reading Bytes

namespace Kourosh.Routing

open Text
open Option

def tlsHandshake : UInt8 := 0x16
def tlsClientHello : UInt8 := 0x01
def extServerName : Nat := 0x0000
def sniHostName : UInt8 := 0x00
def maxHostLen : Nat := 253

def peekBudget : Nat := 4096

def be16 (buf : Bytes) (pos : Nat) : Option Nat := do
  let hi ← buf[pos]?
  let lo ← buf[pos + 1]?
  return hi.toNat * 256 + lo.toNat

def be24 (buf : Bytes) (pos : Nat) : Option Nat := do
  let a ← buf[pos]?
  let b ← buf[pos + 1]?
  let c ← buf[pos + 2]?
  return (a.toNat * 256 + b.toNat) * 256 + c.toNat

/- `buf.get(start..)`. -/
def sliceFrom (buf : Bytes) (start : Nat) : Option Bytes :=
  if start ≤ buf.length then some (buf.drop start) else none

/- `buf.get(start..start + length)`. -/
def slice (buf : Bytes) (start length : Nat) : Option Bytes :=
  if start + length ≤ buf.length then some ((buf.drop start).take length)
  else none

-- Plausible Names

def isHostChar (c : Char) : Bool := c.isAlphanum || c == '-' || c == '.' || c == '_'

/- `str::len`. -/
def byteLength (text : List Char) : Nat := (text.map Char.utf8Size).sum

def plausibleHost (raw : Bytes) : Option (List Char) :=
  if raw.isEmpty || raw.length > maxHostLen then none
  else
    match utf8Decode raw with
    | none => none
    | some text =>
      let name := (trim text).rdropWhile (· == '.')
      if name.isEmpty || byteLength name > maxHostLen then none
      else if !name.all isHostChar || !name.contains '.' then none
      -- without colons only an IPv4 address is one
      else if (parseIpv4 name).isSome then none
      else some (name.map Char.toLower)

-- TLS

/- The entries of a server name list. -/
def serverNames : Nat → Bytes → Option (Option (List Char))
| _, [] => none
| skip + 1, _ :: rest => serverNames skip rest
| 0, nameType :: rest =>
  let list := nameType :: rest
  if list.length < 3 then none
  else
    match be16 list 1 with
    | none => some none
    | some nameLen =>
      match slice list 3 nameLen with
      | none => some none
      | some name =>
        if nameType ≠ sniHostName then serverNames (2 + nameLen) rest
        else some (plausibleHost name)

def serverNameList (ext : Bytes) : Option (Option (List Char)) :=
  match be16 ext 0 with
  | none => some none
  | some _ => serverNames 0 (ext.drop 2)

def extensions : Nat → Bytes → Option (List Char)
| _, [] => none
| skip + 1, _ :: rest => extensions skip rest
| 0, byte :: rest =>
  let cur := byte :: rest
  if cur.length < 4 then none
  else do
    let extType ← be16 cur 0
    let extLen ← be16 cur 2
    let ext ← slice cur 4 extLen
    if extType ≠ extServerName then extensions (3 + extLen) rest
    else
      match serverNameList ext with
      | some result => result
      | none => extensions (3 + extLen) rest

def tlsSni (buf : Bytes) : Option (List Char) :=
  if buf.length < 5 || buf.head? != some tlsHandshake then none
  else do
    let hs := buf.drop 5
    if hs.head? != some tlsClientHello || hs.length < 4 then none
    else do
      let _ ← be24 hs 1
      -- version and random
      let cur ← sliceFrom hs 4
      if cur.length < 2 + 32 then none
      else do
        let cur := cur.drop (2 + 32)
        let sidLen ← cur.head?
        let cur ← sliceFrom cur (1 + sidLen.toNat)
        let csLen ← be16 cur 0
        let cur ← sliceFrom cur (2 + csLen)
        let cmLen ← cur.head?
        let cur ← sliceFrom cur (1 + cmLen.toNat)
        let _ ← be16 cur 0
        let cur ← sliceFrom cur 2
        extensions 0 cur

-- HTTP

/- `text.split("\r\n")`. -/
def splitCrlf : Bytes → List Bytes
| [] => [[]]
| [byte] => [[byte]]
| byte :: next :: rest =>
  if byte = 13 ∧ next = 10 then [] :: splitCrlf rest
  else
    match splitCrlf (next :: rest) with
    | [] => [[byte]]
    | line :: lines => (byte :: line) :: lines

def httpMethods : List Bytes :=
  [ascii "GET ", ascii "POST ", ascii "HEAD ", ascii "PUT ", ascii "CONNECT "]

def httpHost (buf : Bytes) : Option (List Char) := do
  let _ ← utf8Decode buf
  if !httpMethods.any fun method => method.isPrefixOf buf then none
  else do
    let rest ← (splitCrlf buf).findSome? fun line => (ascii "Host:").isPrefixOf? line
    plausibleHost rest

def hostname (buf : Bytes) : Option (List Char) := (tlsSni buf).or (httpHost buf)

-- Names That Are Found

variable {name : List Char} {skip : Nat} {buf : Bytes}

lemma dot_mem_of_plausibleHost
  {raw : Bytes} (hName : plausibleHost raw = some name) : '.' ∈ name := by
  unfold plausibleHost at hName
  split at hName
  · cases hName
  · split at hName
    · cases hName
    next text hText =>
      simp only at hName
      split at hName
      · cases hName
      · split at hName
        · cases hName
        next hAllowed =>
          split at hName
          · cases hName
          · cases hName
            have hDot : '.' ∈ (trim text).rdropWhile (· == '.') := by
              simp only [Bool.or_eq_true, not_or] at hAllowed
              simpa using hAllowed.2
            exact List.mem_map.mpr ⟨'.', hDot, rfl⟩

lemma dot_mem_of_serverNames
  {list : Bytes} (hName : serverNames skip list = some (some name)) : '.' ∈ name := by
  fun_induction serverNames skip list with
  | case1 | case3 | case4 | case5 => cases hName
  | case2 _ _ _ ih | case6 _ _ _ _ _ _ _ _ _ ih => exact ih hName
  | case7 nameType rest list hLong nameLen hLen entry hEntry hType =>
    simp only [some.injEq] at hName
    exact dot_mem_of_plausibleHost hName

lemma dot_mem_of_serverNameList
  {ext : Bytes} (hName : serverNameList ext = some (some name)) : '.' ∈ name := by
  unfold serverNameList at hName
  split at hName
  · cases hName
  · exact dot_mem_of_serverNames hName

lemma dot_mem_of_extensions
  {cur : Bytes} (hName : extensions skip cur = some name) : '.' ∈ name := by
  fun_induction extensions skip cur with
  | case1 | case3 => cases hName
  | case2 _ _ _ ih => exact ih hName
  | case4 byte rest cur hLong ih =>
    simp only [bind_eq_bind, bind_eq_some_iff] at hName
    rcases hName with ⟨extType, -, extLen, -, ext, -, hBody⟩
    split at hBody
    · exact ih extLen hBody
    · split at hBody
      next result hResult =>
        rw [hBody] at hResult
        exact dot_mem_of_serverNameList hResult
      · exact ih extLen hBody

lemma dot_mem_of_tlsSni (hName : tlsSni buf = some name) : '.' ∈ name := by
  unfold tlsSni at hName
  split at hName
  · cases hName
  · simp only at hName
    split at hName
    · cases hName
    · simp only [bind_eq_bind, bind_eq_some_iff] at hName
      rcases hName with ⟨-, -, body, -, hBody⟩
      split at hBody
      · cases hBody
      · simp only [bind_eq_some_iff] at hBody
        rcases hBody with ⟨-, -, -, -, -, -, -, -, -, -, -, -, -, -, cur, -, hExtensions⟩
        exact dot_mem_of_extensions hExtensions

lemma dot_mem_of_httpHost (hName : httpHost buf = some name) : '.' ∈ name := by
  simp only [httpHost, bind_eq_bind, bind_eq_some_iff] at hName
  rcases hName with ⟨-, -, hLines⟩
  split at hLines
  · cases hLines
  · rcases bind_eq_some_iff.mp hLines with ⟨rest, -, hHost⟩
    exact dot_mem_of_plausibleHost hHost

variable (hName : hostname buf = some name)

include hName

/- Whatever a stream announces, its name has a dot. -/
lemma dot_mem_of_hostname : '.' ∈ name := by
  rcases or_eq_some_iff.mp hName with hSni | ⟨-, hHttp⟩
  · exact dot_mem_of_tlsSni hSni
  · exact dot_mem_of_httpHost hHttp

/- So it is never the name of the local host. -/
lemma not_localhost_of_hostname : sameIgnoringCase name localhost = false := by
  have hDot : '.' ∈ name.map Char.toLower := List.mem_map.mpr ⟨'.', dot_mem_of_hostname hName, rfl⟩
  by_contra hSame
  have hEq : name.map Char.toLower = localhost.map Char.toLower := by
    simpa [sameIgnoringCase] using hSame
  rw [hEq] at hDot
  exact absurd hDot (by decide)

end Kourosh.Routing
