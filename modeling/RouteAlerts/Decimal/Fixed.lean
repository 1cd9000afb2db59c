import RouteAlerts.Decimal.Binary
import RouteAlerts.Text.Digit

/-!
Decimal text with a fixed number of places: the exact value rounded to that many places, a half to
the even neighbour, never with an exponent.
-/

namespace RouteAlerts.Decimal

open Text

/-- A whole number of units of the last place, with the point set before the places. -/
def withPoint (places units : Nat) : List Char :=
  let digits := padded (places + 1) units
  let whole := digits.take (digits.length - places)
  if places == 0 then whole else whole ++ '.' :: digits.drop (digits.length - places)

/-- The number of units of the last place nearest to `mantissa * 2 ^ exponent`. -/
def unitsOf (places mantissa : Nat) (exponent : Int) : Nat :=
  match exponent with
  | .ofNat n => mantissa * Nat.pow 10 places * Nat.pow 2 n
  | .negSucc n => roundQuotient (mantissa * Nat.pow 10 places) (Nat.pow 2 (n + 1))

/-- A number with `places` places after the point; the sign of a zero is kept. -/
def fixed (places : Nat) (x : Float) : List Char :=
  match Binary.ofFloat x with
  | .nan => "NaN".toList
  | .infinite negative => if negative then "-inf".toList else "inf".toList
  | .finite negative mantissa exponent =>
    let text := withPoint places (unitsOf places mantissa exponent)
    if negative then '-' :: text else text

end RouteAlerts.Decimal
