import RouteAlerts.Text.Blank

/-!
The queries with which a place is searched for: its full name with the city first, then shorter and
longer forms of it.
-/

namespace RouteAlerts.Place

open Text

/-- The forms of a normalized place, the most telling first: with the city, alone, its last word,
its first word, and as a station. -/
def forms (city place : List Char) : List (List Char) :=
  let inCity (s : List Char) : List Char := city ++ ' ' :: s
  let parts := words place
  let single := match parts.head?, parts.getLast? with
    | some first, some last => if parts.length > 1 then [inCity last, inCity first] else []
    | _, _ => []
  let station :=
    if place.getLast? != some '역' && place.length ≤ 5 then [inCity (place ++ ['역'])] else []
  [inCity place, place] ++ single ++ station

/-- Whether something is left of a query without the city. -/
def saysEnough (city query : List Char) : Bool := (trim (replace city [] query)).length ≥ 2

/-- The queries for a normalized place, in the order in which they are asked. -/
def queries (city normalized : List Char) : List (List Char) :=
  ((forms city (trim normalized)).map trim).foldl
    (fun kept q => if saysEnough city q && !kept.contains q then kept ++ [q] else kept) []

end RouteAlerts.Place
