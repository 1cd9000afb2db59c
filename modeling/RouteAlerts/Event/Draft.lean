import RouteAlerts.Announcement.Clock
import RouteAlerts.Event.Basic

/-!
Events drafted from announcements: what they are called, what is said about them, and when and where
they are.
-/

namespace RouteAlerts

open Text

/-- The category of every event that is drafted from an announcement. -/
def assemblyCategory : String := "집회"

/-- Where an event is whose announcement names no place. -/
def unknownPlace : List Char := "알 수 없는 장소".toList

def standardSeverity : Nat := 2

/-- The title of an event: its place, the category and, when it is known, how many take part. -/
def eventTitle (place : List Char) (headcount : Option Nat) : List Char :=
  place ++ ' ' :: assemblyCategory.toList ++
  match headcount with
  | some n => " (참가자 ".toList ++ natDigits n ++ "명)".toList
  | none => []

/-- An address in a district; an unknown place is somewhere in it. -/
def addressIn (district place : List Char) : List Char :=
  if place == unknownPlace then district else district ++ ' ' :: place

namespace Announcement

def locationName (a : Announcement) : List Char :=
  match a.primaryPlace with
  | some place => place.toList
  | none => unknownPlace

/-- The remark of an announcement, trimmed, unless it is blank. -/
def tidyRemark (a : Announcement) : Option (List Char) :=
  (a.remark.map fun r => trim r.toList).filter (!·.isEmpty)

/-- The headcount, the remark and the source of an announcement, as far as it has them. -/
def description (a : Announcement) : List Char :=
  let headcount := a.headcount.map fun n => "참가인원: ".toList ++ natDigits n ++ ['명']
  let remark := a.tidyRemark.map fun r => "추가정보: ".toList ++ r
  let source := "데이터 출처: ".toList ++ a.source.attribution.toList
  joinWith " | ".toList (headcount.toList ++ remark.toList ++ [source])

/-- The event of an announcement at a point, with an address in the home district. -/
def draft (a : Announcement) (district : List Char) (point : Point) : EventDraft where
  title := String.ofList (eventTitle a.locationName a.headcount)
  description := some (String.ofList a.description)
  locationName := String.ofList a.locationName
  locationAddress := some (String.ofList (addressIn district a.locationName))
  point
  start := a.start
  finish := a.finish
  category := some assemblyCategory
  severity := standardSeverity
  status := .active

end Announcement

end RouteAlerts
