import RouteAlerts.Text.Digit

/-!
Calendar dates of the proleptic Gregorian calendar with astronomical years, their day numbers and
their text.
-/

namespace RouteAlerts

def isLeapYear (year : Int) : Bool :=
  (year % 4 == 0 && year % 100 != 0) || year % 400 == 0

/-- The number of days of a month; a month that does not exist has none. -/
def daysInMonth (year : Int) (month : Nat) : Nat :=
  match month with
  | 1 | 3 | 5 | 7 | 8 | 10 | 12 => 31
  | 4 | 6 | 9 | 11 => 30
  | 2 => if isLeapYear year then 29 else 28
  | _ => 0

/-- Whether three numbers name a day of a representable year. -/
def IsDate (year : Int) (month day : Nat) : Prop :=
  -262143 ≤ year ∧ year ≤ 262142 ∧ 1 ≤ day ∧ day ≤ daysInMonth year month

instance (year : Int) (month day : Nat) : Decidable (IsDate year month day) := by
  unfold IsDate; infer_instance

structure Date where
  year : Int
  month : Nat
  day : Nat
  isDate : IsDate year month day
  deriving DecidableEq

namespace Date

def of? (year : Int) (month day : Nat) : Option Date :=
  if h : IsDate year month day then some ⟨year, month, day, h⟩ else none

/-- The number of days since 1 January 1970. Years are counted from March, so that the leap day is
the last of its year. -/
def toDays (d : Date) : Int :=
  let year := if d.month ≤ 2 then d.year - 1 else d.year
  let era := year / 400
  let yearOfEra := year % 400
  let month : Int := if d.month ≤ 2 then d.month + 9 else d.month - 3
  let dayOfYear := (153 * month + 2) / 5 + d.day - 1
  let dayOfEra := yearOfEra * 365 + yearOfEra / 4 - yearOfEra / 100 + dayOfYear
  era * 146097 + dayOfEra - 719468

/-- The year, month and day with a day number. -/
def fieldsOfDays (days : Int) : Int × Nat × Nat :=
  let shifted := days + 719468
  let era := shifted / 146097
  let dayOfEra := shifted % 146097
  let yearOfEra := (dayOfEra - dayOfEra / 1460 + dayOfEra / 36524 - dayOfEra / 146096) / 365
  let dayOfYear := dayOfEra - (365 * yearOfEra + yearOfEra / 4 - yearOfEra / 100)
  let month := (5 * dayOfYear + 2) / 153
  let day := (dayOfYear - (153 * month + 2) / 5 + 1).toNat
  let calendarMonth := (if month < 10 then month + 3 else month - 9).toNat
  let year := yearOfEra + era * 400
  (if calendarMonth ≤ 2 then year + 1 else year, calendarMonth, day)

/-- The date with a day number, if its year can be represented. -/
def ofDays? (days : Int) : Option Date :=
  let (year, month, day) := fieldsOfDays days
  of? year month day

/-- The day of the week, Monday being 0. -/
def weekday (d : Date) : Nat := ((d.toDays + 3) % 7).toNat

/-- A year: four digits from 0 to 9999, otherwise a sign and at least four digits. -/
def yearText (year : Int) : List Char :=
  match year with
  | .ofNat n => if n ≤ 9999 then Text.padded 4 n else '+' :: Text.padded 4 n
  | .negSucc n => '-' :: Text.padded 4 (n + 1)

/-- A date as year, month and day with hyphens between them. -/
def text (d : Date) : List Char :=
  yearText d.year ++ '-' :: Text.padded 2 d.month ++ '-' :: Text.padded 2 d.day

/-- A date as year, month and day without anything between them. -/
def compact (d : Date) : List Char :=
  yearText d.year ++ Text.padded 2 d.month ++ Text.padded 2 d.day

/-- A date in six digits, the century left out. -/
def stamp (d : Date) : List Char :=
  Text.padded 2 (d.year % 100).toNat ++ Text.padded 2 d.month ++ Text.padded 2 d.day

end Date

end RouteAlerts
