import Kourosh.Basic
import Kourosh.Lib.Octets
import Mathlib

/-
  The subnet of the TUN interface, chosen among four by the texts of the device's addresses.

  A text between those of two addresses need not belong to an address between them, so that
  172.16.0.0/12 is given up for an address that is not in it.

  Main declarations
    * `selectPrivateAddress` : the subnet that is returned
    * `Missed` : the addresses for which a free subnet is given up

  Correctness is proven by:
    * `selected_subnet_is_free_iff`
-/

-- Address Plans

namespace Kourosh.Tun2SocksManager

open List
open Octets

structure PrivateAddress where
  ipAddress : Ipv4Addr
  subnet : Ipv4Addr
  prefixLength : Nat
  router : Ipv4Addr

def defaultPrivateAddress : PrivateAddress := ⟨⟨10, 0, 0, 1⟩, ⟨10, 0, 0, 0⟩, 8, ⟨10, 0, 0, 2⟩⟩

def candidates : List (String × PrivateAddress) := [
  ("10", ⟨⟨10, 0, 0, 1⟩, ⟨10, 0, 0, 0⟩, 8, ⟨10, 0, 0, 2⟩⟩),
  ("172", ⟨⟨172, 16, 0, 1⟩, ⟨172, 16, 0, 0⟩, 12, ⟨172, 16, 0, 2⟩⟩),
  ("192", ⟨⟨192, 168, 0, 1⟩, ⟨192, 168, 0, 0⟩, 16, ⟨192, 168, 0, 2⟩⟩),
  ("169", ⟨⟨169, 254, 1, 1⟩, ⟨169, 254, 1, 0⟩, 24, ⟨169, 254, 1, 2⟩⟩)]

def dotted (octet : Nat) : List Char := Nat.toDigits 10 octet ++ ['.']

def hostAddress (ip : Ipv4Addr) : List Char :=
  dotted ip.a.toNat ++ (dotted ip.b.toNat ++ (dotted ip.c.toNat ++ Nat.toDigits 10 ip.d.toNat))

/- The candidate that an address removes. -/
def removed : IpAddr → Option String
| .v6 _ => none
| .v4 address =>
  let ip := hostAddress address
  if "10.".toList <+: ip then some "10"
  else if 6 ≤ ip.length ∧ "172.16".toList ≤ ip.take 6 ∧ ip.take 6 ≤ "172.31".toList then some "172"
  else if "192.168".toList <+: ip then some "192"
  else none

/- The interfaces are `none` after a `SocketException`. -/
def selectPrivateAddress (interfaces : Option (List (List IpAddr))) : PrivateAddress :=
  let left := (interfaces.getD []).flatten.foldl
    (fun left address => left.filter (removed address ≠ some ·.1)) candidates
  (left.head?.map Prod.snd).getD defaultPrivateAddress

abbrev PrivateAddress.contains (net : PrivateAddress) (ip : Ipv4Addr) : Prop :=
  let network (ip : Ipv4Addr) := beNat [ip.a, ip.b, ip.c, ip.d] / 2 ^ (32 - net.prefixLength)
  network ip = network net.subnet

def PrivateAddress.Free (net : PrivateAddress) (interfaces : List (List IpAddr)) : Prop :=
  ∀ ip, .v4 ip ∈ interfaces.flatten → ¬ net.contains ip

/- Outside 172.16.0.0/12, with a text between those of its ends. -/
def Stray (ip : Ipv4Addr) : Prop :=
  ip.a.toNat = 172 ∧ (ip.b.toNat = 2 ∨ ip.b.toNat = 3 ∨ 160 ≤ ip.b.toNat)

variable {interfaces : List (List IpAddr)} {ip : Ipv4Addr} {u s t w : List Char}

lemma prefix_of_between (hFrom : u ++ s ≤ w) (hTo : w ≤ u ++ t) : u <+: w := by
  induction u generalizing w with
  | nil => exact nil_prefix
  | cons c u ih =>
    cases w with
    | nil => exact absurd hFrom (by simp)
    | cons d w =>
      have hLess : ¬ d < c := fun hLess => not_lt.mpr hFrom (.rel hLess)
      have hGreater : ¬ c < d := fun hGreater => not_lt.mpr hTo (.rel hGreater)
      have hSame : c = d := le_antisymm (not_lt.mp hLess) (not_lt.mp hGreater)
      subst hSame
      refine cons_prefix_cons.mpr ⟨rfl, ih ?_ ?_⟩
      · exact not_lt.mp fun hLess => not_lt.mpr hFrom (.cons hLess)
      · exact not_lt.mp fun hGreater => not_lt.mpr hTo (.cons hGreater)

lemma octet_of_prefix {octet : UInt8} (hPrefix : u <+: dotted octet.toNat ++ t)
  (hOnly : ∀ n < 256, u <+: dotted n ∨ dotted n <+: u → n = k) : octet.toNat = k :=
  hOnly _ octet.toNat_lt ( prefix_or_prefix_of_prefix hPrefix (prefix_append _ _))

lemma prefix_ten_iff : "10.".toList <+: hostAddress ip ↔ ip.a.toNat = 10 := by
  refine ⟨fun hPrefix => octet_of_prefix hPrefix (by decide +kernel), fun hTen => ?_⟩
  rw [hostAddress, hTen]
  exact prefix_append _ _

lemma between_iff : (6 ≤ (hostAddress ip).length ∧ "172.16".toList ≤ (hostAddress ip).take 6 ∧
  (hostAddress ip).take 6 ≤ "172.31".toList) ↔
    ip.a.toNat = 172 ∧ (16 ≤ ip.b.toNat ∧ ip.b.toNat ≤ 31) ∨ Stray ip := by
  have hNext : ∀ n < 256, 2 ≤ (dotted n).length ∧
    ("172.16".toList ≤ dotted 172 ++ (dotted n).take 2 ∧
      dotted 172 ++ (dotted n).take 2 ≤ "172.31".toList ↔
        16 ≤ n ∧ n ≤ 31 ∨ n = 2 ∨ n = 3 ∨ 160 ≤ n) := by decide +kernel
  rcases hNext _ ip.b.toNat_lt with ⟨hLength, hRange⟩
  by_cases hFirst : ip.a.toNat = 172
  · have hTake : (hostAddress ip).take 6 = dotted 172 ++ (dotted ip.b.toNat).take 2 := by
      rw [hostAddress, hFirst, ← take_append_of_le_length hLength]
      exact @take_length_add_append _ (dotted 172) _ 2
    have hLong : 6 ≤ (hostAddress ip).length := by
      have hFour : (dotted 172).length = 4 := rfl
      rw [hostAddress, hFirst, length_append, length_append]
      omega
    rw [hTake, hRange, Stray]
    omega
  · refine ⟨fun hBetween => absurd ?_ hFirst, fun hIn => absurd ?_ hFirst⟩
    · have hPrefix := (@prefix_of_between "172.".toList "16".toList "31".toList _
        hBetween.2.1 hBetween.2.2).trans ( take_prefix _ _)
      exact octet_of_prefix hPrefix (by decide +kernel)
    · rcases hIn with hIn | hIn
      all_goals exact hIn.1

lemma prefix_last_iff :
  "192.168".toList <+: hostAddress ip ↔ ip.a.toNat = 192 ∧ ip.b.toNat = 168 := by
  constructor
  · intro hPrefix
    have hFirst : ip.a.toNat = 192 := octet_of_prefix hPrefix (by decide +kernel)
    rw [hostAddress, hFirst] at hPrefix
    have hRest : "168".toList <+: _ := (prefix_append_right_inj (dotted 192)).mp hPrefix
    exact ⟨hFirst, octet_of_prefix hRest (by decide +kernel)⟩
  · rintro ⟨hFirst, hSecond⟩
    rw [hostAddress, hFirst, hSecond, ← append_assoc]
    exact ⟨_, rfl⟩

/- The texts remove the first three subnets as they should, strays apart. -/
lemma removed_iff :
  ∀ c ∈ candidates.take 3,
    removed (.v4 ip) = some c.1 ↔ c.2.contains ip ∨ c.1 = "172" ∧ Stray ip := by
  have hA := ip.a.toNat_lt
  have hB := ip.b.toNat_lt
  have hC := ip.c.toNat_lt
  have hD := ip.d.toNat_lt
  simp only [candidates, take_succ_cons, take_zero, forall_mem_cons, PrivateAddress.contains,
    beNat]
  unfold removed
  dsimp only
  -- each test on the text is one on the first two octets
  split_ifs with hTen hBetween hLast
  all_goals
    rw [prefix_ten_iff] at hTen
    try rw [between_iff, Stray] at hBetween
    try rw [prefix_last_iff] at hLast
    refine ⟨?_, ?_, ?_, by simp⟩
    all_goals
      simp [Stray]
      omega

lemma removed_ne_last (address : IpAddr) : removed address ≠ some "169" := by
  unfold removed
  split
  · exact nofun
  · dsimp only
    split_ifs <;> decide

lemma foldl_removed (addresses : List IpAddr) (left : List (String × PrivateAddress)) :
  addresses.foldl (fun left address => left.filter (removed address ≠ some ·.1)) left =
    left.filter fun c => ∀ address ∈ addresses, removed address ≠ some c.1 := by
  induction addresses generalizing left with
  | nil => simp
  | cons => simp_all [Bool.and_comm]

/- Of the four subnets only 172.16.0.0/12 is free, and a stray address removes it. -/
structure Missed
    (interfaces : List (List IpAddr)) :
    Prop where
  free_iff : ∀ c ∈ candidates, c.2.Free interfaces ↔ c.1 = "172"
  stray : ∃ ip, .v4 ip ∈ interfaces.flatten ∧ Stray ip

lemma not_free_iff {net : PrivateAddress} :
  ¬ net.Free interfaces ↔ ∃ ip, .v4 ip ∈ interfaces.flatten ∧ net.contains ip := by
  unfold PrivateAddress.Free
  push Not
  rfl

/- The first of the three subnets that no address removes, or the last of the four. -/
lemma selectPrivateAddress_eq (interfaces : List (List IpAddr)) :
  selectPrivateAddress (some interfaces) =
    (((candidates.take 3).find? fun c =>
      ∀ address ∈ interfaces.flatten, removed address ≠ some c.1).getD candidates[3]).2 := by
  rw [selectPrivateAddress, foldl_removed, Option.getD_some, head?_filter]
  have hSplit : ∀ p : String × PrivateAddress → Bool, p candidates[3] →
      ((candidates.find? p).map Prod.snd).getD defaultPrivateAddress =
        (((candidates.take 3).find? p).getD candidates[3]).2 := by
    intro p hLast
    rw [show candidates.find? p = (candidates.take 3 ++ [candidates[3]]).find? p from rfl,
      find?_append, find?_cons_of_pos hLast]
    cases (candidates.take 3).find? p with
    | none | some => rfl
  exact hSplit _ (decide_eq_true fun address _ => removed_ne_last address)

lemma removed_of_none {c : String × PrivateAddress}
  (hNone : (candidates.take 3).find? (fun c =>
    ∀ address ∈ interfaces.flatten, removed address ≠ some c.1) = none)
  (hMem : c ∈ candidates.take 3) :
  ∃ ip, .v4 ip ∈ interfaces.flatten ∧ (c.2.contains ip ∨ c.1 = "172" ∧ Stray ip) := by
  have hRemoved := find?_eq_none.mp hNone c hMem
  simp only [decide_eq_true_eq, not_forall, not_not] at hRemoved
  rcases hRemoved with ⟨address, hAddress, hRemoved⟩
  cases address with
  | v4 ip => exact ⟨ip, hAddress, (removed_iff c hMem).mp hRemoved⟩
  | v6 => cases hRemoved

/-
  Where one of the four subnets is free the subnet that is returned is free, if and only if not
  just 172.16.0.0/12 is free with a stray address on an interface.
-/
theorem selected_subnet_is_free_iff
    (interfaces : List (List IpAddr)) :
    ((∃ c ∈ candidates, c.2.Free interfaces) →
      (selectPrivateAddress (some interfaces)).Free interfaces) ↔
    ¬ Missed interfaces := by
  rw [selectPrivateAddress_eq]
  cases hFirst : (candidates.take 3).find? _ with
  | some c =>
    have hMem := mem_of_find?_eq_some hFirst
    have hKept : ∀ address ∈ interfaces.flatten, removed address ≠ some c.1 :=
      of_decide_eq_true (find?_eq_some_iff_append.mp hFirst).1
    have hFree : c.2.Free interfaces := by
      intro ip hIp hIn
      exact hKept _ hIp ((removed_iff c hMem).mpr (.inl hIn))
    refine iff_of_true (fun _ => hFree) ?_
    intro hMissed
    rcases hMissed.stray with ⟨ip, hIp, hStray⟩
    have hName := (hMissed.free_iff c (mem_of_mem_take hMem)).mp hFree
    exact hKept _ hIp ((removed_iff c hMem).mpr (.inr ⟨hName, hStray⟩))
  | none =>
    have hRemoved := fun c => @removed_of_none interfaces c hFirst
    constructor
    · intro hSelected hMissed
      have hFree := (hMissed.free_iff candidates[1] (by simp)).mpr rfl
      have hLast := hSelected ⟨candidates[1], by simp, hFree⟩
      exact absurd ((hMissed.free_iff candidates[3] (by simp)).mp hLast) (by decide)
    · rintro hMissed ⟨c, hMem, hFree⟩
      by_contra hLast
      rw [Option.getD_none] at hLast
      -- outside 172.16.0.0/12 only an address of the subnet removes it
      have hUsed : ∀ c ∈ candidates, c.1 ≠ "172" → ¬ c.2.Free interfaces := by
        intro c hMem hName
        have hSplit : c ∈ candidates.take 3 ∨ c = candidates[3] := by
          simpa [candidates, or_assoc] using hMem
        rcases hSplit with hMem | rfl
        · rcases hRemoved c hMem with ⟨ip, hIp, hIn | hIn⟩
          · exact not_free_iff.mpr ⟨ip, hIp, hIn⟩
          · exact absurd hIn.1 hName
        · exact hLast
      have hName : c.1 = "172" := by
        by_contra hName
        exact hUsed c hMem hName hFree
      have hOnly : c = candidates[1] := by
        simp only [candidates, mem_cons, not_mem_nil, or_false] at hMem
        rcases hMem with rfl | rfl | rfl | rfl
        all_goals first | rfl | exact absurd hName (by decide)
      subst hOnly
      refine hMissed ⟨?_, ?_⟩
      · intro c hMem
        refine ⟨fun hFree => ?_, fun hName => ?_⟩
        · by_contra hName
          exact hUsed c hMem hName hFree
        · simp only [candidates, mem_cons, not_mem_nil, or_false] at hMem
          rcases hMem with rfl | rfl | rfl | rfl
          all_goals first | exact hFree | exact absurd hName (by decide)
      · rcases hRemoved candidates[1] (by simp [candidates]) with ⟨ip, hIp, hIn | hIn⟩
        · exact absurd hIn (hFree ip hIp)
        · exact ⟨ip, hIp, hIn.2⟩

/- 172.2.0.1 removes 172.16.0.0/12, and nothing removes 169.254.1.0/24. -/
theorem free_subnet_is_missed :
    ¬ ∀ interfaces, (∃ c ∈ candidates, c.2.Free interfaces) →
      (selectPrivateAddress (some interfaces)).Free interfaces := by
  intro hAll
  have hSelected := hAll [[.v4 ⟨10, 0, 0, 5⟩, .v4 ⟨172, 2, 0, 1⟩, .v4 ⟨192, 168, 1, 5⟩,
    .v4 ⟨169, 254, 1, 5⟩]] ⟨candidates[1], by simp, by
      simp [PrivateAddress.Free, candidates, PrivateAddress.contains, beNat]⟩
  exact hSelected ⟨169, 254, 1, 5⟩ (by simp) (by decide)

end Kourosh.Tun2SocksManager
