import Kourosh.Basic
import Mathlib.Data.List.Induction
import Mathlib.Data.List.Sort

/-
  The gateways that are kept for the next connect.

  A gateway that has worked replaces its older entry, the entries are sorted by their round-trip
  times, and the list is cut to twelve.

  Correctness is proven by:
    * `last_gateway_is_kept`
-/

namespace Kourosh.Scan

open List

/- `prober::IpScan`. -/
inductive IpScan where
  | v4
  | v6
  | both

namespace IpScan

def wantV4 (scan : IpScan) : Bool := scan matches .v4 | .both

def wantV6 (scan : IpScan) : Bool := scan matches .v6 | .both

def wants (scan : IpScan) : IpAddr → Bool
| .v4 _ => scan.wantV4
| .v6 _ => scan.wantV6

end IpScan

def maxCachedMasqueGateways : Nat := 12

structure IpText (τ : Type) where
  toText : IpAddr → τ
  parse : τ → Option IpAddr
  parse_toText : ∀ ip, parse (toText ip) = some ip

structure CachedMasqueGateway (τ : Type) where
  ip : τ
  port : UInt16
  rttMs : Nat
deriving DecidableEq

structure ProbeResult where
  ip : IpAddr
  port : UInt16
  rtt : Nat

abbrev Cache (τ : Type) := List (CachedMasqueGateway τ)

variable {τ : Type} [DecidableEq τ] (t : IpText τ)

def ProbeResult.cached (gateway : ProbeResult) : CachedMasqueGateway τ :=
  ⟨t.toText gateway.ip, gateway.port, min gateway.rtt (2 ^ 64 - 1)⟩

def Cache.put (gateways : Cache τ) (gateway : ProbeResult) : Cache τ :=
  gateways.filter (fun entry =>
    !(entry.ip == t.toText gateway.ip && entry.port == gateway.port)) ++ [gateway.cached t]

/- What a read of the file gives is there unless it is missing or damaged. -/
def cacheMasqueGateway (file : Option (Cache τ)) (gateway : ProbeResult)
  (stored : Bool) : Option (Cache τ) :=
  let gateways := (Cache.put t (file.getD []) gateway).insertionSort fun a b => a.rttMs ≤ b.rttMs
  if stored then some (gateways.take maxCachedMasqueGateways) else file

def cachedMasqueGateways (scan : IpScan) (file : Option (Cache τ)) : List SocketAddr :=
  ((((file.getD []).filterMap fun entry => (t.parse entry.ip).map fun ip =>
    SocketAddr.mk ip entry.port).filter fun addr => scan.wants addr.ip).take
    maxCachedMasqueGateways)

def cacheAfter (calls : List (ProbeResult × Bool)) : Option (Cache τ) :=
  calls.foldl (fun file call => cacheMasqueGateway t file call.1 call.2) none

-- Along The Calls

def CachedMasqueGateway.key (entry : CachedMasqueGateway τ) : τ × UInt16 := (entry.ip, entry.port)

def LastFor (calls : List (ProbeResult × Bool)) (entry : CachedMasqueGateway τ) : Prop :=
  ∃ before call after, calls = before ++ call :: after ∧ entry = call.1.cached t ∧
    ∀ later ∈ after, (later.1.cached t).key ≠ entry.key

structure Sound (calls : List (ProbeResult × Bool)) (gateways : Cache τ) : Prop where
  nodup : (gateways.map CachedMasqueGateway.key).Nodup
  sorted : gateways.Pairwise fun a b => a.rttMs ≤ b.rttMs
  short : gateways.length ≤ maxCachedMasqueGateways
  latest : ∀ entry ∈ gateways, LastFor t calls entry

variable {t} {calls : List (ProbeResult × Bool)} {gateways : Cache τ}
variable {call : ProbeResult × Bool} {file : Option (Cache τ)}

section

variable (gateways : Cache τ) (gateway : ProbeResult)

lemma put_eq : Cache.put t gateways gateway =
  gateways.filter (fun entry => entry.key ≠ (gateway.cached t).key) ++ [gateway.cached t] := by
  refine congrArg (· ++ _) (filter_congr fun entry _ => ?_)
  rw [Bool.eq_iff_iff]
  simp [CachedMasqueGateway.key, ProbeResult.cached, imp_iff_not_or]

lemma perm_put : (Cache.put t gateways gateway).insertionSort (fun a b => a.rttMs ≤ b.rttMs) ~
  gateways.filter (fun entry => entry.key ≠ (gateway.cached t).key) ++ [gateway.cached t] :=
  put_eq (t := t) gateways gateway ▸ perm_insertionSort _ _

end

lemma Sound.next (hSound : Sound t calls (file.getD [])) (hStored : call.2) :
  Sound t (calls ++ [call]) ((cacheMasqueGateway t file call.1 call.2).getD []) := by
  simp only [cacheMasqueGateway, hStored, if_true, Option.getD_some]
  have hPerm := perm_put (t := t) (file.getD []) call.1
  refine ⟨?_, ?_, length_take_le _ _, ?_⟩
  · refine ((take_sublist _ _).map _).nodup ((hPerm.map _).nodup_iff.mpr ?_)
    rw [map_append, map_singleton, ← concat_eq_append, nodup_concat]
    refine ⟨?_, (filter_sublist.map _).nodup hSound.nodup⟩
    simp
  · exact (pairwise_insertionSort _ _).sublist (take_sublist _ _)
  · intro entry hMem
    rcases mem_append.mp (hPerm.mem_iff.mp (mem_of_mem_take hMem)) with hOld | hNew
    · rcases mem_filter.mp hOld with ⟨hEntry, hOther⟩
      rw [decide_eq_true_eq] at hOther
      rcases hSound.latest entry hEntry with ⟨before, first, after, rfl, hSame, hLater⟩
      refine ⟨before, first, after ++ [call], by simp, hSame, ?_⟩
      simpa [or_imp, forall_and, hOther.symm] using hLater
    · exact ⟨calls, call, [], rfl, mem_singleton.mp hNew, nofun⟩

lemma sound_cacheAfter (hStored : ∀ call ∈ calls, call.2) :
  Sound t calls ((cacheAfter t calls).getD []) := by
  induction calls using List.reverseRecOn with
  | nil => exact ⟨nodup_nil, Pairwise.nil, Nat.zero_le _, nofun⟩
  | append_singleton calls call ih =>
    rw [forall_mem_append] at hStored
    rw [cacheAfter, foldl_append]
    exact (ih hStored.1).next (hStored.2 call mem_cons_self)

lemma mem_take_of_countP {α : Type} {l : List α} {x : α} {f : α → Nat} {n : Nat}
  (hSorted : l.Pairwise fun a b => f a ≤ f b) (hMem : x ∈ l)
  (hFew : l.countP (fun y => f y ≤ f x) ≤ n) : x ∈ l.take n := by
  by_contra hBehind
  rw [← take_append_drop n l] at hSorted hMem hFew
  have hDrop : x ∈ l.drop n := (mem_append.mp hMem).resolve_left hBehind
  have hAll : (l.take n).countP (fun y => f y ≤ f x) = (l.take n).length :=
    countP_eq_length.mpr fun y hY => decide_eq_true ((pairwise_append.mp hSorted).2.2 y hY x hDrop)
  have hSome : 0 < (l.drop n).countP (fun y => f y ≤ f x) :=
    countP_pos_iff.mpr ⟨x, hDrop, decide_eq_true le_rfl⟩
  have hLong := length_pos_of_mem hDrop
  rw [countP_append, hAll, length_take] at hFew
  rw [length_drop] at hLong
  omega

def rivals (t : IpText τ) (file : Option (Cache τ)) (gateway : ProbeResult) : Nat :=
  (file.getD []).countP fun entry =>
    entry.rttMs ≤ (gateway.cached t).rttMs && entry.key ≠ (gateway.cached t).key

lemma cached_mem (hRoom : rivals t file call.1 < maxCachedMasqueGateways) (hStored : call.2) :
  call.1.cached t ∈ (cacheMasqueGateway t file call.1 call.2).getD [] := by
  simp only [cacheMasqueGateway, hStored, if_true, Option.getD_some]
  have hPerm := perm_put (t := t) (file.getD []) call.1
  refine mem_take_of_countP (pairwise_insertionSort _ _) (hPerm.mem_iff.mpr (by simp)) ?_
  have hOwn : [call.1.cached t].countP (fun e => e.rttMs ≤ (call.1.cached t).rttMs) = 1 := by simp
  rw [hPerm.countP_eq, countP_append, countP_filter, hOwn]
  exact hRoom

/-
  If every call can write the file, the list is as it should be; and if fewer than twelve of the
  entries kept before are as fast as the last gateway, it offers that gateway again.
-/
theorem last_gateway_is_kept
    (t : IpText τ)
    (calls : List (ProbeResult × Bool))
    (hStored : ∀ call ∈ calls, call.2 = true) :
    Sound t calls ((cacheAfter t calls).getD []) ∧
    ∀ earlier last,
      calls = earlier ++ [last] →
      rivals t (cacheAfter t earlier) last.1 < maxCachedMasqueGateways →
      last.1.cached t ∈ (cacheAfter t calls).getD [] ∧
      ∀ scan : IpScan,
        scan.wants last.1.ip = true →
        ⟨last.1.ip, last.1.port⟩ ∈ cachedMasqueGateways t scan (cacheAfter t calls) := by
  have hSound := sound_cacheAfter (t := t) hStored
  refine ⟨hSound, ?_⟩
  rintro earlier last rfl hRoom
  have hKept : last.1.cached t ∈ (cacheAfter t (earlier ++ [last])).getD [] := by
    rw [cacheAfter, foldl_append]
    exact cached_mem hRoom (hStored last (by simp))
  refine ⟨hKept, fun scan hWanted => ?_⟩
  rw [cachedMasqueGateways, take_of_length_le, mem_filter, mem_filterMap]
  swap
  · exact ((length_filter_le _ _).trans (length_filterMap_le _ _)).trans hSound.short
  exact ⟨⟨_, hKept, by simp [ProbeResult.cached, t.parse_toText]⟩, hWanted⟩

def plainText : IpText IpAddr := ⟨id, some, fun _ => rfl⟩

def gatewayAt (port : UInt16) (rtt : Nat) : ProbeResult := ⟨.v4 ⟨162, 159, 198, 1⟩, port, rtt⟩

theorem slower_gateway_is_kept :
    (gatewayAt 500 90).cached plainText ∈
      (cacheAfter plainText [(gatewayAt 443 20, true), (gatewayAt 500 90, true)]).getD [] :=
  ((last_gateway_is_kept plainText [(gatewayAt 443 20, true), (gatewayAt 500 90, true)]
    (by decide)).2 [_] _ rfl (by decide +kernel)).1

theorem thirteenth_gateway_is_dropped :
  ¬ ∀ calls : List (ProbeResult × Bool), (∀ call ∈ calls, call.2 = true) →
    ∀ earlier last, calls = earlier ++ [last] →
      last.1.cached plainText ∈ (cacheAfter plainText calls).getD [] := by
  intro hAll
  let faster := [1, 2, 3, 4, 5, 6, 7, 8, 9, 10, 11, 12].map fun port => (gatewayAt port 20, true)
  have hLast := hAll (faster ++ [(gatewayAt 443 90, true)]) (by decide) faster _ rfl
  exact absurd hLast (by decide +kernel)

end Kourosh.Scan
