import RouteAlerts.Decimal.Binary
import RouteAlerts.Text.Digit

/-!
The shortest decimal text of a number: the fewest digits that read back as the same number, and of
those the nearest, written out in full without an exponent.
-/

namespace RouteAlerts.Decimal

open Text

/-- The numbers that round to a given one: those between two ends, over a common denominator. -/
structure Interval where
  low : Nat
  value : Nat
  high : Nat
  denominator : Nat
  /-- Whether the ends themselves belong to it. -/
  closed : Bool

/-- The interval around `mantissa * 2 ^ exponent`. The lower half is narrower at a power of two,
where the spacing of the numbers below is halved. -/
def Interval.around (mantissa : Nat) (exponent : Int) : Interval :=
  let below := if mantissa == Nat.pow 2 52 && exponent > -1074 then 1 else 2
  let scale := exponent - 2
  let (up, down) := match scale with
    | .ofNat n => (Nat.pow 2 n, 1)
    | .negSucc n => (1, Nat.pow 2 (n + 1))
  ⟨(4 * mantissa - below) * up, 4 * mantissa * up, (4 * mantissa + 2) * up, down,
    mantissa % 2 == 0⟩

/-- Whether the decimal `digits * 10 ^ power` rounds to the interval's number. -/
def Interval.holds (i : Interval) (digits : Nat) (power : Int) : Bool :=
  let (num, den) := match power with
    | .ofNat n => (digits * Nat.pow 10 n * i.denominator, 1)
    | .negSucc n => (digits * i.denominator, Nat.pow 10 (n + 1))
  if i.closed then i.low * den ≤ num && num ≤ i.high * den
  else i.low * den < num && num < i.high * den

/-- The largest multiple of `10 ^ power` not above the value, and twice what is left over compared
with the step: whether the next multiple is as near. -/
def Interval.below (i : Interval) (power : Int) : Nat × Bool :=
  let (num, den) := match power with
    | .ofNat n => (i.value, i.denominator * Nat.pow 10 n)
    | .negSucc n => (i.value * Nat.pow 10 (n + 1), i.denominator)
  (num / den, 2 * (num % den) ≥ den)

/-- The decimal on the grid of `10 ^ power` that reads back, the nearer of the two neighbours when
both do. -/
def Interval.onGrid (i : Interval) (power : Int) : Option Nat :=
  let (down, upIsNear) := i.below power
  let downHolds := i.holds down power
  let upHolds := i.holds (down + 1) power
  if upHolds && (upIsNear || !downHolds) then some (down + 1)
  else if downHolds && down != 0 then some down
  else none

/-- The first grid, from coarse to fine, that has a decimal of the interval. -/
def Interval.search (i : Interval) : Nat → Int → Nat × Int
  | 0, power => ((i.below power).1, power)
  | steps + 1, power =>
    match i.onGrid power with
    | some digits => (digits, power)
    | none => i.search steps (power - 1)

/-- A decimal written out in full: zeros after it, or a point inside or in front of it. -/
def positional (digits : Nat) (power : Int) : List Char :=
  match power with
  | .ofNat n => if digits == 0 then ['0'] else natDigits digits ++ List.replicate n '0'
  | .negSucc n =>
    let text := padded (n + 2) digits
    let whole := text.take (text.length - (n + 1))
    whole ++ '.' :: text.drop (text.length - (n + 1))

/-- The shortest text of a number that reads back as the number. -/
def shortest (x : Float) : List Char :=
  match Binary.ofFloat x with
  | .nan => "NaN".toList
  | .infinite negative => if negative then "-inf".toList else "inf".toList
  | .finite negative mantissa exponent =>
    let text :=
      if mantissa == 0 then ['0']
      else
        let (digits, power) := (Interval.around mantissa exponent).search 660 309
        positional digits power
    if negative then '-' :: text else text

end RouteAlerts.Decimal
