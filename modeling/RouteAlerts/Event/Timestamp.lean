import RouteAlerts.Calendar.Reader
import RouteAlerts.Decimal.Read

/-!
Timestamps as the event store keeps them: text that sorts like the moments it stands for. The store
also tells the day of a text, and is more lenient about it than about moments: it takes a time
without seconds, a zone, or a bare Julian day number.
-/

namespace RouteAlerts.Timestamp

open Text

/-- The text of a moment, its fraction of a second left out. -/
def write (m : Moment) : List Char := m.date.text ++ ' ' :: m.time.secondsText

/-- The moment that a text stands for, if it can be read back. -/
def read? (s : List Char) : Option Moment := Calendar.timestamp? s

/-! ### Days -/

def isSpace (c : Char) : Bool := c == ' ' || (9 ≤ c.toNat && c.toNat ≤ 13)

/-- A number of a given number of ASCII digits, between two bounds. -/
def number? (width low high : Nat) : Reader Nat := fun s =>
  let digits := s.take width
  if digits.length == width && digits.all isAsciiDigit then
    let n := digitsToNat digits
    if low ≤ n && n ≤ high then some (n, s.drop width) else none
  else none

/-- Two numbers of two digits with a colon between them. -/
def pair? (high : Nat) : Reader (Nat × Nat) := fun s => do
  let (a, s) ← number? 2 0 high s
  let s ← Calendar.mark ':' s
  let (b, s) ← number? 2 0 59 s
  some ((a, b), s)

/-- The minutes that a zone is ahead, with nothing behind them; none where no zone is given. -/
def zone? (s : List Char) : Option (Option Int) := do
  let finished (s : List Char) : Bool := (s.dropWhile isSpace).isEmpty
  match s.dropWhile isSpace with
  | [] => some none
  | c :: s =>
    if c == 'Z' || c == 'z' then if finished s then some none else none
    else if c == '+' || c == '-' then do
      let ((hours, minutes), s) ← pair? 14 s
      let ahead : Int := hours * 60 + minutes
      if !finished s then none
      else if ahead == 0 then some none
      else some (some (if c == '+' then ahead else -ahead))
    else none

/-- A time of day up to the end of a text: its seconds, and the minutes that its zone is ahead. Hour
24 is taken. -/
def time? (s : List Char) : Option (Nat × Option Int) := do
  let ((hour, minute), s) ← pair? 24 s
  let (second, s) ← match s with
    | ':' :: rest => number? 2 0 59 rest
    | s => some (0, s)
  let s := match s with
    | '.' :: d :: rest => if isAsciiDigit d then rest.dropWhile isAsciiDigit else s
    | s => s
  some (hour * 3600 + minute * 60 + second, ← zone? s)

/-- The first and the last second of the time that has a day, counted from the start of 1970. -/
def range : Int × Int := (-210866760000, 253402300799)

/-- The number of a day, if the second lies in the range. -/
def dayOfSecond? (second : Int) : Option Int :=
  if range.1 ≤ second && second ≤ range.2 then some (second / 86400) else none

/-- The day of a date and a time. A day of the month that the month does not have counts on into the
next one. -/
def dayOf? (year : Int) (month day : Nat) (time : Option (Nat × Option Int)) : Option Int := do
  if year < -4713 || year > 9999 then none
  else
    let first ← Date.of? year month 1
    let date := first.toDays + (day - 1 : Nat)
    let (seconds, ahead) := time.getD (0, none)
    let second := date * 86400 + seconds - ahead.getD 0 * 60
    let counted ← dayOfSecond? second
    some (if ahead.isNone && day ≤ 28 then date else counted)

/-- The day of a text that starts with a date. -/
def datedDay? (s : List Char) : Option Int := do
  let (negative, s) := match s with
    | '-' :: rest => (true, rest)
    | s => (false, s)
  let (year, s) ← number? 4 0 9999 s
  let (month, s) ← number? 2 1 12 (← Calendar.mark '-' s)
  let (day, s) ← number? 2 1 31 (← Calendar.mark '-' s)
  let year : Int := if negative then -(year : Int) else year
  match s.dropWhile fun c => isSpace c || c == 'T' with
  | [] => dayOf? year month day none
  | rest => dayOf? year month day (some (← time? rest))

/-- The day of a text that is a time alone: it belongs to the first day of 2000. -/
def timedDay? (s : List Char) : Option Int := do
  let (seconds, ahead) ← time? s
  let first ← Date.of? 2000 1 1
  dayOfSecond? (first.toDays * 86400 + seconds - ahead.getD 0 * 60)

/-- A number that is not negative, white space around it and a sign in front of it allowed. -/
def plainNumber? (s : List Char) : Option Float :=
  match trimWhere isSpace s with
  | '+' :: rest => Decimal.readUnsigned? rest
  | '-' :: rest => (Decimal.readUnsigned? rest).filter (· == 0.0)
  | s => Decimal.readUnsigned? s

/-- The day of a Julian day number, which starts at noon. -/
def julianDay? (s : List Char) : Option Int :=
  match plainNumber? s with
  | some r =>
    if r < 5373484.5 then some (((r + 0.5).floor.toUInt64.toNat : Int) - 2440588) else none
  | none => none

/-- The number of the day that a text lies in, counted from the start of 1970. -/
def day? (s : List Char) : Option Int :=
  ((datedDay? s).orElse fun _ => timedDay? s).orElse fun _ => julianDay? s

end RouteAlerts.Timestamp
