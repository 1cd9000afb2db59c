import RouteAlerts.Text.Split

/-!
Decimal digits. A digit of any script counts as a digit when a text is scanned; numbers are read
from the ASCII digits alone.
-/

namespace RouteAlerts.Text

/-- The zeros of the decimal digit blocks; the digits of a block follow its zero in order. -/
def zeros : List Nat :=
  [0x0030, 0x0660, 0x06F0, 0x07C0, 0x0966, 0x09E6, 0x0A66, 0x0AE6, 0x0B66, 0x0BE6,
   0x0C66, 0x0CE6, 0x0D66, 0x0DE6, 0x0E50, 0x0ED0, 0x0F20, 0x1040, 0x1090, 0x17E0,
   0x1810, 0x1946, 0x19D0, 0x1A80, 0x1A90, 0x1B50, 0x1BB0, 0x1C40, 0x1C50, 0xA620,
   0xA8D0, 0xA900, 0xA9D0, 0xA9F0, 0xAA50, 0xABF0, 0xFF10, 0x104A0, 0x10D30, 0x10D40,
   0x11066, 0x110F0, 0x11136, 0x111D0, 0x112F0, 0x11450, 0x114D0, 0x11650, 0x116C0, 0x116D0,
   0x116DA, 0x11730, 0x118E0, 0x11950, 0x11BF0, 0x11C50, 0x11D50, 0x11DA0, 0x11F50, 0x16130,
   0x16A60, 0x16AC0, 0x16B50, 0x16D70, 0x1CCF0, 0x1D7CE, 0x1D7D8, 0x1D7E2, 0x1D7EC, 0x1D7F6,
   0x1E140, 0x1E2F0, 0x1E4F0, 0x1E5F1, 0x1E950, 0x1FBF0]

/-- The value of a decimal digit of any script. -/
def digitValue? (c : Char) : Option Nat :=
  let n := c.toNat
  (zeros.find? fun z => z ≤ n && n ≤ z + 9).map (n - ·)

def isDigit (c : Char) : Bool := (digitValue? c).isSome

def isAsciiDigit (c : Char) : Bool := '0' ≤ c && c ≤ '9'

/-- The number that ASCII digits stand for, most significant first. -/
def digitsToNat (s : List Char) : Nat :=
  s.foldl (fun n c => 10 * n + (c.toNat - '0'.toNat)) 0

/-- How many numbers have at most so many bits. -/
def numbersOf (bits : Nat) : Nat := Nat.pow 2 bits

/-- The number written with ASCII digits, a plus sign in front allowed, when it is below `bound`. -/
def readNat? (bound : Nat) (s : List Char) : Option Nat :=
  let digits := match s with
    | '+' :: rest => rest
    | _ => s
  if digits.isEmpty || !digits.all isAsciiDigit then none
  else
    let n := digitsToNat digits
    if n < bound then some n else none

def natDigits (n : Nat) : List Char := Nat.toDigits 10 n

/-- The decimal digits of a number, with zeros in front up to a width. -/
def padded (width n : Nat) : List Char :=
  let digits := natDigits n
  List.replicate (width - digits.length) '0' ++ digits

/-! ### Runs -/

/-- A non-empty run of digits, as long as possible. -/
def digitRun? : Reader (List Char) := fun s =>
  let run := s.takeWhile isDigit
  if run.isEmpty then none else some (run, s.dropWhile isDigit)

def digits? (n : Nat) : Reader (List Char) := fun s =>
  let run := s.take n
  if run.length == n && run.all isDigit then some (run, s.drop n) else none

/-- One or two digits, two when two stand there. -/
def oneOrTwoDigits? : Reader (List Char) := fun s =>
  match digits? 2 s with
  | some found => some found
  | none => digits? 1 s

/-- The groups of a comma and three digits at the front of a text, as many as follow each other. -/
def thousands : List Char → List Char × List Char
  | ',' :: a :: b :: c :: s =>
    if isDigit a && isDigit b && isDigit c then
      let (groups, rest) := thousands s
      (',' :: a :: b :: c :: groups, rest)
    else ([], ',' :: a :: b :: c :: s)
  | s => ([], s)

/-- A number as people write it: a run of digits, with thousands groups after a run of at most
three. -/
def number? : Reader (List Char) := fun s =>
  match digitRun? s with
  | none => none
  | some (run, rest) =>
    if run.length ≤ 3 then
      let (groups, rest) := thousands rest
      some (run ++ groups, rest)
    else some (run, rest)

end RouteAlerts.Text
