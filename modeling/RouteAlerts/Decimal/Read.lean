import RouteAlerts.Text.Digit

/-!
Numbers read from decimal text: an optional sign, digits with at most one point, an optional power
of ten, or one of the words for infinity and for no number. The number nearest to the decimal is
taken.
-/

namespace RouteAlerts.Decimal

open Text

inductive ReadError where
  | empty
  | invalid
  deriving DecidableEq, Repr

def ReadError.message : ReadError → String
  | .empty => "cannot parse float from empty string"
  | .invalid => "invalid float literal"

/-- The number nearest to `mantissa * 10 ^ power`; beyond four hundred places either way it is
infinite or zero. -/
def nearest (mantissa : Nat) (power : Int) : Float :=
  let top := power + (natDigits mantissa).length
  if mantissa == 0 || top < -400 then 0.0
  else if top > 400 then 1.0 / 0.0
  else match power with
    | .ofNat n => Float.ofScientific mantissa false n
    | .negSucc n => Float.ofScientific mantissa true (n + 1)

/-- The power of ten after the digits: nothing, or `e`, an optional sign and digits. -/
def readPower? : List Char → Option Int
  | [] => some 0
  | e :: s =>
    if e != 'e' && e != 'E' then none
    else
      let (negative, digits) := match s with
        | '-' :: rest => (true, rest)
        | '+' :: rest => (false, rest)
        | _ => (false, s)
      if digits.isEmpty || !digits.all isAsciiDigit then none
      else
        let n : Int := digitsToNat digits
        some (if negative then -n else n)

/-- Digits with an optional point and an optional power of ten. -/
def readUnsigned? (s : List Char) : Option Float :=
  let whole := s.takeWhile isAsciiDigit
  let afterWhole := s.dropWhile isAsciiDigit
  let (fraction, rest) := match afterWhole with
    | '.' :: t => (t.takeWhile isAsciiDigit, t.dropWhile isAsciiDigit)
    | _ => ([], afterWhole)
  if whole.isEmpty && fraction.isEmpty then none
  else (readPower? rest).map fun power =>
    nearest (digitsToNat (whole ++ fraction)) (power - fraction.length)

/-- The words that are read without digits, in any letter case. -/
def readWord? (s : List Char) : Option Float :=
  let lower := s.map Char.toLower
  if lower == "inf".toList || lower == "infinity".toList then some (1.0 / 0.0)
  else if lower == "nan".toList then some (0.0 / 0.0)
  else none

def read (s : List Char) : Except ReadError Float :=
  if s.isEmpty then .error .empty
  else
    let (negative, body) := match s with
      | '-' :: rest => (true, rest)
      | '+' :: rest => (false, rest)
      | _ => (false, s)
    match (readUnsigned? body).orElse fun _ => readWord? body with
    | some x => .ok (if negative then -x else x)
    | none => .error .invalid

end RouteAlerts.Decimal
