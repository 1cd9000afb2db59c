import RouteAlerts.Announcement.Clock
import RouteAlerts.Place.Name

/-!
Announcements of several sources put together. A place on a day at a time is one slot, however it is
spelled and whoever announces it; the first announcement of a slot keeps it, and later ones lose the
place.
-/

namespace RouteAlerts

open Text

/-- What makes two announced places the same: the day, the start and the place as it is spelled for
a search. -/
structure SlotKey where
  date : Date
  start : TimeOfDay
  place : List Char
  deriving DecidableEq

namespace SlotKey

/-- A place in a form that does not depend on its spelling. One of which a search would keep nothing
is only stripped of its blanks. -/
def placePart (place : List Char) : List Char :=
  let name := PlaceName.normalize place
  if name.isEmpty then strip place else name

def of (a : Announcement) (place : String) : SlotKey :=
  ⟨a.date, a.start.time, placePart place.toList⟩

/-- A key as text: date, clock and place with bars between them. -/
def text (k : SlotKey) : List Char :=
  k.date.text ++ '|' :: k.start.clockText ++ '|' :: k.place

end SlotKey

namespace Announcement

def slotKey (a : Announcement) (place : String) : List Char := (SlotKey.of a place).text

/-- The places of an announcement whose keys have not been seen, with all keys seen after them. -/
def unseen (a : Announcement) : List (List Char) → List String → List String × List (List Char)
  | seen, [] => ([], seen)
  | seen, place :: places =>
    let key := a.slotKey place
    if seen.contains key then a.unseen seen places
    else
      let (kept, seen) := a.unseen (key :: seen) places
      (place :: kept, seen)

/-- The announcements with the places that nobody announced before; one without such a place is left
out. -/
def mergeFrom : List (List Char) → List Announcement → List Announcement
  | _, [] => []
  | seen, a :: rest =>
    let (kept, seen) := a.unseen seen a.places
    if kept.isEmpty then mergeFrom seen rest
    else { a with places := kept } :: mergeFrom seen rest

/-- The announcements of several sources, those of earlier sources first. -/
def merge (sources : List (List Announcement)) : List Announcement :=
  mergeFrom [] sources.flatten

end Announcement

end RouteAlerts
