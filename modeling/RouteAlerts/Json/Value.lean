import RouteAlerts.Text.Digit

/-!
JSON values. A value that was read may hold strings that are no text, such as one with half of a
surrogate pair, so the type of strings is a parameter: `Option (List Char)` for what is read,
`List Char` for what is written.
-/

namespace RouteAlerts.Json

open Text

/-- A number as it is written: its digits, not its value. -/
structure Number where
  negative : Bool
  whole : List Char
  /-- The digits after the point; none when there is no point. -/
  fraction : List Char
  /-- The sign and the digits of the power of ten. -/
  power : Option (Bool × List Char)
  deriving DecidableEq, Repr

inductive Value (σ : Type) where
  | null
  | bool (b : Bool)
  | number (n : Number)
  | string (s : σ)
  | array (items : List (Value σ))
  | object (members : List (σ × Value σ))

namespace Number

def ofNat (n : Nat) : Number := ⟨false, natDigits n, [], none⟩

/-- The largest significand that is collected exactly. -/
def significandBound : Nat := numbersOf 64

/-- Whole digits collected while they fit, and how many did not. -/
def collectWhole (s : List Char) : Nat × Nat :=
  s.foldl (fun (n, dropped) c =>
    let next := 10 * n + (c.toNat - '0'.toNat)
    if dropped == 0 && next < significandBound then (next, 0) else (n, dropped + 1)) (0, 0)

/-- Fraction digits collected while they fit, and how many of them were; the rest is ignored. -/
def collectFraction (n : Nat) : List Char → Nat × Nat
  | [] => (n, 0)
  | c :: s =>
    let next := 10 * n + (c.toNat - '0'.toNat)
    if next < significandBound then
      let (n, count) := collectFraction next s
      (n, count + 1)
    else (n, 0)

def tenTo (n : Nat) : Float := Float.ofScientific 1 false n

/-- A significand scaled by a power of ten, one floating-point operation at a time; nothing when the
result is too large. -/
def scale (x : Float) (power : Int) : Nat → Option Float
  | 0 => some x
  | steps + 1 =>
    if power.natAbs ≤ 308 then
      if power ≥ 0 then
        let y := x * tenTo power.toNat
        if y.isInf then none else some y
      else some (x / tenTo power.natAbs)
    else if x == 0.0 then some x
    else if power ≥ 0 then none
    else scale (x / tenTo 308) (power + 308) steps

/-- The value of a number as a floating-point number, if it is not too large. The significand is
collected in 64 bits and scaled by its power of ten. -/
def toFloat? (n : Number) : Option Float :=
  let (whole, dropped) := collectWhole n.whole
  let (significand, places) := collectFraction whole n.fraction
  let start : Int := (dropped : Int) - places
  let sign (x : Float) : Float := if n.negative then -x else x
  let x := (UInt64.ofNat significand).toFloat
  match n.power with
  | none => if n.fraction.isEmpty && dropped == 0 then some (sign x) else (scale x start 8).map sign
  | some (negative, digits) =>
    let power := digitsToNat digits
    if power ≥ numbersOf 31 then
      if significand == 0 || negative then some (sign 0.0) else none
    else
      let total := if negative then start - power else start + power
      (scale x total (total.natAbs / 308 + 2)).map sign

/-- Whether a number is written without a point and without a power of ten. -/
def isWhole (n : Number) : Bool := n.fraction.isEmpty && n.power.isNone

/-- The value of a number as a natural number below a bound, if it is written as one. -/
def toNat? (bound : Nat) (n : Number) : Option Nat :=
  let value := digitsToNat n.whole
  if n.isWhole && !n.negative && value < bound && value < numbersOf 64 then some value else none

/-- The value of a number as a signed 64-bit number, if it is written as one. A negative zero is
not. -/
def toInt64? (n : Number) : Option Int :=
  let value := digitsToNat n.whole
  if !n.isWhole then none
  else if n.negative then
    if value == 0 || value > numbersOf 63 then none else some (-(value : Int))
  else if value < numbersOf 63 then some value
  else none

end Number

end RouteAlerts.Json
