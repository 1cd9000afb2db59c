import RouteAlerts.Event.Basic
import RouteAlerts.Geo.Point

/-!
Which events are near a route. Of a route either a road is known, and events near one of its
vertices count, or only its two ends, and events count that are near an end or hardly a detour.
-/

namespace RouteAlerts

inductive RouteShape where
  | road (line : Polyline)
  | ends (commute : Commute)

/-- The greatest distance in metres that counts as near, where none is given. -/
def standardThreshold : Float := 500.0

def Polyline.isNear (line : Polyline) (p : Point) (threshold : Float) : Bool :=
  line.any fun v => distance v p ≤ threshold

/-- Whether a point is near one of the two ends, or as near as that to the way between them,
measured by the detour over it. -/
def Commute.isNear (c : Commute) (p : Point) (threshold : Float) : Bool :=
  let before := distance c.departure p
  let after := distance p c.arrival
  if before ≤ threshold || after ≤ threshold then true
  else (before + after - distance c.departure c.arrival).abs ≤ threshold

namespace RouteShape

/-- The road between two ends where it is known and has a vertex, the ends otherwise. -/
def of (commute : Commute) (line : Option Polyline) : RouteShape :=
  match line with
  | some (v :: vs) => road (v :: vs)
  | _ => ends commute

def isNear (shape : RouteShape) (p : Point) (threshold : Float) : Bool :=
  match shape with
  | road line => line.isNear p threshold
  | ends commute => commute.isNear p threshold

def isRoad : RouteShape → Bool
  | road _ => true
  | ends _ => false

/-- The events near a route, in order. -/
def eventsNear (shape : RouteShape) (threshold : Float) (events : List Event) : List Event :=
  events.filter fun e => shape.isNear e.draft.point threshold

end RouteShape

end RouteAlerts
