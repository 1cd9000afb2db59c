import RouteAlerts.Calendar.Date

/-!
Times of day and moments: a date with a time of day. A moment carries no zone; the same type serves
for moments in Coordinated Universal Time and for local ones.
-/

namespace RouteAlerts

/-- Whether four numbers name a time of day. A second of 60 is a leap second. -/
def IsTimeOfDay (hour minute second nano : Nat) : Prop :=
  hour < 24 ∧ minute < 60 ∧ second ≤ 60 ∧ nano < 1000000000

instance (hour minute second nano : Nat) : Decidable (IsTimeOfDay hour minute second nano) := by
  unfold IsTimeOfDay; infer_instance

structure TimeOfDay where
  hour : Nat
  minute : Nat
  second : Nat
  nano : Nat
  isTime : IsTimeOfDay hour minute second nano
  deriving DecidableEq

namespace TimeOfDay

def of? (hour minute second nano : Nat) : Option TimeOfDay :=
  if h : IsTimeOfDay hour minute second nano then some ⟨hour, minute, second, nano, h⟩ else none

def clock? (hour minute : Nat) : Option TimeOfDay := of? hour minute 0 0

def clockText (t : TimeOfDay) : List Char :=
  Text.padded 2 t.hour ++ ':' :: Text.padded 2 t.minute

def secondsText (t : TimeOfDay) : List Char := t.clockText ++ ':' :: Text.padded 2 t.second

/-- The fraction of a second in three, six or nine places, the fewest that hold it. -/
def fractionText (nano : Nat) : List Char :=
  if nano == 0 then []
  else if nano % 1000000 == 0 then '.' :: Text.padded 3 (nano / 1000000)
  else if nano % 1000 == 0 then '.' :: Text.padded 6 (nano / 1000)
  else '.' :: Text.padded 9 nano

/-- Hour, minute, second and what there is of a fraction. -/
def text (t : TimeOfDay) : List Char := t.secondsText ++ fractionText t.nano

end TimeOfDay

structure Moment where
  date : Date
  time : TimeOfDay
  deriving DecidableEq

namespace Moment

/-- A moment with a letter between date and time. -/
def text (m : Moment) : List Char := m.date.text ++ 'T' :: m.time.text

def spaced (m : Moment) : List Char := m.date.text ++ ' ' :: m.time.text

/-- The seconds since the start of 1970; a leap second counts as the second before it. -/
def toSeconds (m : Moment) : Int :=
  m.date.toDays * 86400 + m.time.hour * 3600 + m.time.minute * 60 + min m.time.second 59

/-- The moment some seconds later, or earlier. A leap second stays the last of its minute when whole
minutes are added. -/
def addSeconds? (m : Moment) (n : Int) : Option Moment := do
  let total := m.toSeconds + n
  let date ← Date.ofDays? (total / 86400)
  let inDay := (total % 86400).toNat
  let leap := m.time.second - 59
  let time ← TimeOfDay.of? (inDay / 3600) (inDay / 60 % 60) (inDay % 60 + leap) m.time.nano
  some ⟨date, time⟩

/-- The start of 1970, from which seconds are counted. -/
def epoch : Moment := ⟨⟨1970, 1, 1, by decide⟩, ⟨0, 0, 0, 0, by decide⟩⟩

/-- The moment some seconds after the start of 1970. -/
def ofSeconds? (n : Int) : Option Moment := epoch.addSeconds? n

/-- The moment cut to whole seconds. -/
def truncate (m : Moment) : Moment :=
  ⟨m.date, ⟨m.time.hour, m.time.minute, m.time.second, 0,
    ⟨m.time.isTime.1, m.time.isTime.2.1, m.time.isTime.2.2.1, by decide⟩⟩⟩

end Moment

end RouteAlerts
