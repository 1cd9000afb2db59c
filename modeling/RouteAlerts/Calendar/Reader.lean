import RouteAlerts.Calendar.Moment
import RouteAlerts.Text.Blank

/-!
Dates and moments read from text. Numbers may have fewer digits than they are written with, blanks
may stand before a number and before a separator, and a year may be signed.
-/

namespace RouteAlerts.Calendar

open Text

def mark (c : Char) (s : List Char) : Option (List Char) :=
  match s with
  | d :: rest => if d == c then some rest else none
  | [] => none

/-- One to `most` ASCII digits, as many as stand there. -/
def number (most : Nat) : Reader Nat := fun s =>
  let run := (s.take most).takeWhile isAsciiDigit
  if run.isEmpty then none else some (digitsToNat run, s.drop run.length)

/-- Blanks and then a number of one or two digits. -/
def field : Reader Nat := fun s => number 2 (trimStart s)

/-- Blanks and then a year: up to four digits, or a sign and any number of digits. -/
def year : Reader Int := fun s =>
  match trimStart s with
  | '-' :: rest => (number rest.length rest).map fun (n, rest) => (-(n : Int), rest)
  | '+' :: rest => (number rest.length rest).map fun (n, rest) => ((n : Int), rest)
  | s => (number 4 s).map fun (n, rest) => ((n : Int), rest)

/-- A year, a month and a day with hyphens between them. `gap` says what may stand before a
hyphen. -/
def dateFields (gap : List Char → List Char) : Reader Date := fun s => do
  let (y, s) ← year s
  let s ← mark '-' (gap s)
  let (m, s) ← field s
  let s ← mark '-' (gap s)
  let (d, s) ← field s
  let date ← Date.of? y m d
  some (date, s)

/-- An hour, a minute and a second with colons between them. -/
def clockFields (gap : List Char → List Char) : Reader (Nat × Nat × Nat) := fun s => do
  let (h, s) ← field s
  let s ← mark ':' (gap s)
  let (m, s) ← field s
  let s ← mark ':' (gap s)
  let (sec, s) ← field s
  some ((h, m, sec), s)

/-- A point and the digits of a fraction of a second, those after the ninth ignored; without a point
the fraction is zero. -/
def fraction : Reader Nat := fun s =>
  match s with
  | '.' :: rest =>
    let run := rest.takeWhile isAsciiDigit
    if run.isEmpty then none
    else
      let kept := run.take 9
      some (digitsToNat kept * Nat.pow 10 (9 - kept.length), rest.dropWhile isAsciiDigit)
  | _ => some (0, s)

def timeFields : Reader TimeOfDay := fun s => do
  let ((h, m, sec), s) ← clockFields trimStart s
  let (nano, s) ← fraction s
  let time ← TimeOfDay.of? h m sec nano
  some (time, s)

/-- A date and nothing else but blanks around it. -/
def date? (s : List Char) : Option Date := do
  let (date, rest) ← dateFields trimStart s
  if isAllBlank rest then some date else none

def moment? (s : List Char) : Option Moment := do
  let (date, s) ← dateFields trimStart s
  let s ← mark 'T' (trimStart s)
  let (time, rest) ← timeFields s
  if isAllBlank rest then some ⟨date, time⟩ else none

/-- A date and a time of day as the event store keeps them, without a fraction. -/
def timestamp? (s : List Char) : Option Moment := do
  let (date, s) ← dateFields id (trim s)
  let ((h, m, sec), rest) ← clockFields id s
  let time ← TimeOfDay.of? h m sec 0
  if rest.isEmpty then some ⟨date, time⟩ else none

/-- The seconds east of Greenwich: `Z`, `UTC`, or a sign, two digits of hours and two of minutes. -/
def offset : Reader Int := fun s =>
  match s with
  | 'Z' :: rest | 'z' :: rest => some (0, rest)
  | a :: b :: c :: rest =>
    if [a, b, c].map Char.toLower == ['u', 't', 'c'] then some (0, rest)
    else if a != '+' && a != '-' && a != '−' then none
    else do
      let (h, s) ← digits? 2 (b :: c :: rest)
      let s := s.dropWhile fun c => c == ':' || isBlank c
      let (m, s) ← digits? 2 s
      if !(h ++ m).all isAsciiDigit || digitsToNat m ≥ 60 || digitsToNat h ≥ 24 then none
      else
        let seconds : Int := digitsToNat h * 3600 + digitsToNat m * 60
        some (if a == '+' then seconds else -seconds, s)
  | _ => none

/-- A moment with its offset from Coordinated Universal Time, as a moment of the latter. -/
def universal? (s : List Char) : Option Moment := do
  let (date, s) ← dateFields trimStart s
  let s ← (mark 'T' s).orElse fun _ => (mark 't' s).orElse fun _ => mark ' ' s
  let (time, s) ← timeFields s
  let (east, rest) ← offset (trimStart s)
  if isAllBlank rest then Moment.addSeconds? ⟨date, time⟩ (-east) else none

end RouteAlerts.Calendar
