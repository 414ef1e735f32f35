import Kourosh.Lib.Jvm
import Mathlib.Data.Nat.Bitwise

/-
  Addresses of the CDN.

  An edge is an address in one of the listed ranges.
-/

-- The Check

namespace Kourosh.Shard

open List Text

abbrev Text := List Char

def pushOctet (value : Nat) (part : Text) : Option Nat :=
  match Jvm.toIntOrNull part with
  | none => none
  | some octet =>
    if 0 ≤ octet ∧ octet ≤ 255 then some ((value <<< 8) ||| octet.toNat)
    else none

def ipv4ToLong (address : Text) : Option Nat :=
  let parts := address.splitOn '.'
  if parts.length ≠ 4 then none else parts.foldlM pushOctet 0

def cidrToRange (cidr : Text) : Option (Nat × Nat) :=
  if '/' ∈ cidr then
    let base := ipv4ToLong (cidr.takeWhile (· != '/'))
    let bits := Jvm.toIntOrNull ((cidr.dropWhile (· != '/')).drop 1)
    match base, bits with
    | some base, some bits =>
      if 0 ≤ bits ∧ bits ≤ 32 then
        let size := 1 <<< (32 - bits.toNat)
        let first := base &&& (0xFFFFFFFF - (size - 1))
        some (first, first + size - 1)
      else none
    | _, _ => none
  else none

def cfRanges : List (Nat × Nat) :=
  (["173.245.48.0/20", "103.21.244.0/22", "103.22.200.0/22",
    "103.31.4.0/22", "141.101.64.0/18", "108.162.192.0/18",
    "190.93.240.0/20", "188.114.96.0/20", "197.234.240.0/22",
    "198.41.128.0/17", "162.158.0.0/15", "104.16.0.0/13",
    "104.24.0.0/14", "172.64.0.0/13", "131.0.72.0/22"].map String.toList).filterMap cidrToRange

def isCloudflareAddress (address : Text) : Bool :=
  match ipv4ToLong address with
  | none => false
  | some numeric => cfRanges.any fun range => range.1 ≤ numeric && numeric ≤ range.2

-- Blocks Of Addresses

def address (a b c d : Nat) : Nat := ((a * 256 + b) * 256 + c) * 256 + d

structure Block where
  base : Nat
  bits : Nat

def Block.Contains (block : Block) (numeric : Nat) : Prop :=
  numeric / 2 ^ (32 - block.bits) = block.base / 2 ^ (32 - block.bits)

def cloudflareBlocks : List Block :=
  [⟨address 173 245 48 0, 20⟩, ⟨address 103 21 244 0, 22⟩, ⟨address 103 22 200 0, 22⟩,
    ⟨address 103 31 4 0, 22⟩, ⟨address 141 101 64 0, 18⟩, ⟨address 108 162 192 0, 18⟩,
    ⟨address 190 93 240 0, 20⟩, ⟨address 188 114 96 0, 20⟩, ⟨address 197 234 240 0, 22⟩,
    ⟨address 198 41 128 0, 17⟩, ⟨address 162 158 0 0, 15⟩, ⟨address 104 16 0 0, 13⟩,
    ⟨address 104 24 0 0, 14⟩, ⟨address 172 64 0 0, 13⟩, ⟨address 131 0 72 0, 22⟩]

def Octet (part : Text) : Prop := part ≠ [] ∧ (∀ c ∈ part, c.isDigit = true) ∧
  Text.decimal part ≤ 255

def InCloudflare (edge : Text) : Prop := ∃ a b c d : Text,
  edge.splitOn '.' = [a, b, c, d] ∧ Octet a ∧ Octet b ∧ Octet c ∧ Octet d ∧
    ∃ block ∈ cloudflareBlocks, block.Contains
      (address (Text.decimal a) (Text.decimal b) (Text.decimal c) (Text.decimal d))

-- The Check Is Right

def Block.range (block : Block) : Nat × Nat :=
  let size := 2 ^ (32 - block.bits)
  let first := block.base / size * size
  (first, first + size - 1)

lemma cfRanges_eq : cfRanges = cloudflareBlocks.map Block.range := by decide +kernel

variable {numeric value : Nat} {part : Text}

lemma Block.contains_of_range {block : Block} (hFirst : block.range.1 ≤ numeric)
  (hLast : numeric ≤ block.range.2) : block.Contains numeric := by
  have hPos : 0 < 2 ^ (32 - block.bits) := Nat.two_pow_pos _
  simp only [Block.range] at hFirst hLast
  rw [Block.Contains, Nat.div_eq_iff hPos]
  omega

lemma pushOctet_of_digits
  (hNe : part ≠ []) (hDigits : ∀ c ∈ part, c.isDigit) (hSmall : decimal part < 2 ^ 31)
  {value' : Nat} (hPush : pushOctet value part = some value') :
  Octet part ∧ value' = value * 256 + decimal part := by
  rw [pushOctet, Jvm.toIntOrNull_of_isDigit hDigits hNe hSmall] at hPush
  dsimp only at hPush
  split at hPush
  next hRange =>
    have hLe : decimal part ≤ 255 := by omega
    refine ⟨⟨hNe, hDigits, hLe⟩, ?_⟩
    have hOr := Nat.shiftLeft_add_eq_or_of_lt (show decimal part < 2 ^ 8 by omega) value
    cases hPush
    rw [Int.toNat_natCast, ← hOr, Nat.shiftLeft_eq]
  · cases hPush

lemma decimal_lt_of_length_le (hDigits : ∀ c ∈ part, c.isDigit)
  (hLength : part.length ≤ 3) : decimal part < 2 ^ 31 := by
  calc
    decimal part < 10 ^ part.length := decimal_lt hDigits
    _ ≤ 10 ^ 3 := Nat.pow_le_pow_right (by decide) hLength
    _ < 2 ^ 31 := by decide

lemma foldlM_pushOctet {parts : List Text}
  (hParts : ∀ part ∈ parts, part ≠ [] ∧ part.length ≤ 3 ∧ ∀ c ∈ part, c.isDigit)
  (hFold : parts.foldlM pushOctet value = some numeric) : (∀ part ∈ parts, Octet part) ∧
  numeric = parts.foldl (fun value part => value * 256 + decimal part) value := by
  induction parts generalizing value with
  | nil =>
    cases hFold
    exact ⟨by simp, rfl⟩
  | cons part _ ih =>
    rw [foldlM_cons] at hFold
    rcases Option.bind_eq_some_iff.mp hFold with ⟨value', hPush, hRest⟩
    rcases hParts part mem_cons_self with ⟨hNe, hLength, hDigits⟩
    rcases pushOctet_of_digits
      hNe hDigits (decimal_lt_of_length_le hDigits hLength) hPush with ⟨hOctet, hValue⟩
    rcases ih (fun other hMem => hParts other (mem_cons_of_mem _ hMem)) hRest with
      ⟨hOctets, hNumeric⟩
    refine ⟨forall_mem_cons.mpr ⟨hOctet, hOctets⟩, ?_⟩
    rw [hNumeric, hValue, foldl_cons]

/- What the check accepts among the dotted quads. -/
lemma inCloudflare_of_isCloudflareAddress {edge : Text} (hQuad : (edge.splitOn '.').length = 4)
  (hParts : ∀ part ∈ edge.splitOn '.', part ≠ [] ∧ part.length ≤ 3 ∧ ∀ c ∈ part, c.isDigit)
  (hEdge : isCloudflareAddress edge) : InCloudflare edge := by
  cases hLong : ipv4ToLong edge with
  | none => simp [isCloudflareAddress, hLong] at hEdge
  | some numeric =>
    rw [isCloudflareAddress, hLong, cfRanges_eq] at hEdge
    rcases any_eq_true.mp hEdge with ⟨range, hMem, hRange⟩
    rcases mem_map.mp hMem with ⟨block, hBlock, rfl⟩
    rw [Bool.and_eq_true, decide_eq_true_eq, decide_eq_true_eq] at hRange
    rw [ipv4ToLong, if_neg (by simp [hQuad])] at hLong
    rcases foldlM_pushOctet hParts hLong with ⟨hOctets, hNumeric⟩
    rcases length_eq_four.mp hQuad with ⟨a, b, c, d, hSplit⟩
    rw [hSplit] at hOctets hNumeric
    have hAddress :
      numeric = address (decimal a) (decimal b) (decimal c) (decimal d) := by
      simpa [address] using hNumeric
    refine ⟨a, b, c, d, hSplit, hOctets a (by simp), hOctets b (by simp), hOctets c (by simp),
      hOctets d (by simp), block, hBlock, ?_⟩
    rw [← hAddress]
    exact Block.contains_of_range hRange.1 hRange.2

end Kourosh.Shard
