import RouteAlerts.Calendar.Date
import RouteAlerts.Geo.Point
import RouteAlerts.Text.Blank

/-!
Announcements: one timeslot of an assembly as one source printed it, before anything is known about
where it is.
-/

namespace RouteAlerts

/-- Who publishes announcements. -/
inductive Source where
  /-- The daily bulletin on the notice board of the metropolitan police. -/
  | primaryBoard
  /-- The assembly table of the national police information system. -/
  | secondarySystem
  deriving DecidableEq, Repr

namespace Source

def id : Source → String
  | .primaryBoard => "smpa"
  | .secondarySystem => "spatic"

def name : Source → String
  | .primaryBoard => "primary_board"
  | .secondarySystem => "secondary_system"

def attribution : Source → String
  | .primaryBoard => "SMPA(서울경찰청)"
  | .secondarySystem => "SPATIC(경찰청 집회시위 안내)"

def named : List (String × Source) :=
  [(primaryBoard.name, primaryBoard), (secondarySystem.name, secondarySystem)]

end Source

/-- One timeslot of one source. -/
structure Announcement where
  source : Source
  date : Date
  /-- The start as printed, `H:MM` or `HH:MM`. -/
  startTime : String
  /-- The end as printed, or one of the two end marks. -/
  endTime : String
  places : List String
  headcount : Option Nat
  remark : Option String
  /-- Coordinates that the source itself ships. -/
  coordinates : Option Point

/-- The end of a slot that lasts until the crowd disperses. -/
def untilDismissal : String := "종료시"

/-- The end of a slot without an announced end. -/
def undetermined : String := "미정"

namespace Announcement

/-- The first place that is not blank, trimmed: where the slot is shown. -/
def primaryPlace (a : Announcement) : Option String :=
  (a.places.map fun p => Text.trim p.toList).find? (!·.isEmpty) |>.map String.ofList

/-- The coordinates that the source ships, when they lie in the country. -/
def embeddedPoint (a : Announcement) : Option Point :=
  a.coordinates.filter Point.withinKorea

end Announcement

end RouteAlerts
