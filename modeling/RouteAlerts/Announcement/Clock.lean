import RouteAlerts.Announcement.Basic
import RouteAlerts.Calendar.Moment
import RouteAlerts.Text.Digit

/-!
The times of an announcement as times of day. What is printed may be anything, an end mark as well
as a clock; whatever is no clock counts as nine in the morning.
-/

namespace RouteAlerts

open Text

/-- The time of day of what cannot be read as one. -/
def TimeOfDay.standard : TimeOfDay := ⟨9, 0, 0, 0, by decide⟩

/-- The time of day of an hour and a minute with one colon between them, blanks around either number
allowed. -/
def TimeOfDay.ofPrinted? (s : List Char) : Option TimeOfDay :=
  match splitWhere (· == ':') (trim s) with
  | [hour, minute] => do
    let hour ← readNat? (numbersOf 32) (trim hour)
    let minute ← readNat? (numbersOf 32) (trim minute)
    TimeOfDay.clock? hour minute
  | _ => none

/-- The time of day that is printed, or the standard one. -/
def TimeOfDay.ofPrinted (s : List Char) : TimeOfDay := (TimeOfDay.ofPrinted? s).getD .standard

namespace Announcement

def start (a : Announcement) : Moment := ⟨a.date, TimeOfDay.ofPrinted a.startTime.toList⟩

/-- When an announced slot ends. An end mark is no clock, so a slot may end before it starts. -/
def finish (a : Announcement) : Moment := ⟨a.date, TimeOfDay.ofPrinted a.endTime.toList⟩

end Announcement

end RouteAlerts
