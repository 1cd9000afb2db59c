import RouteAlerts.Decimal.Shortest
import RouteAlerts.Place.Search
import RouteAlerts.Geo.Point

/-!
The road between the ends of a commute, asked from a map service.
-/

namespace RouteAlerts.Directions

open Web

def standardAddress : List Char := "https://apis-navi.kakaomobility.com/v1/directions".toList

/-- A record with one list, which may be missing. -/
def only {α : Type} (name : String) (d : Json.Decoder α) : Json.Decoder (List α) := fun v => do
  match ← Json.record [name] v with
  | [items] => items.withDefault (Json.list d) []
  | _ => none

/-- The roads of every section of every route: flat lists of longitudes and latitudes. -/
def routes : Json.Decoder (List (List (List (List Float)))) :=
  only "routes" (only "sections" (only "roads" (only "vertexes" Json.float)))

/-- The road of the first of several routes. -/
def roadOf : List (List (List (List Float))) → Polyline
  | [] => []
  | sections :: _ => Polyline.ofParts sections.flatten

/-- The road in a response; empty when there is none. -/
def read (body : Bytes) : Except MapError Polyline :=
  match (Json.readBytes body).bind routes with
  | none => .error .undecodable
  | some rs => .ok (roadOf rs)

/-- A point as it is sent: longitude first. -/
def pointText (p : Point) : List Char :=
  Decimal.shortest p.lon ++ ',' :: Decimal.shortest p.lat

def query (c : Commute) : List (List Char × List Char) :=
  [("origin".toList, pointText c.departure), ("destination".toList, pointText c.arrival),
   ("priority".toList, "RECOMMEND".toList)]

def ask (service : MapService) (c : Commute) : StateM World (Except MapError Polyline) := do
  match ← service.ask (query c) with
  | .ok response => pure (read response.body)
  | .error e => pure (.error e)

end RouteAlerts.Directions
