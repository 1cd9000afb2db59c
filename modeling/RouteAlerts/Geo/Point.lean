/-!
Points on the map, in degrees of latitude and longitude: how far they lie apart, the places that a
search finds, and the roads between them.
-/

namespace RouteAlerts

/-- A point in degrees. -/
structure Point where
  lat : Float
  lon : Float

namespace Point

/-- Whether a point lies in the box around the country, borders included. -/
def withinKorea (p : Point) : Bool :=
  33.0 ≤ p.lat && p.lat ≤ 39.0 && 124.0 ≤ p.lon && p.lon ≤ 132.0

def isNaN (p : Point) : Bool := p.lat.isNaN || p.lon.isNaN

end Point

structure FoundPlace where
  name : String
  address : Option String
  point : Point

/-! ### Distances

The earth is taken as a sphere.
-/

/-- The radius of the earth in metres. -/
def earthRadius : Float := 6371000.0

def radiansPerDegree : Float := 3.141592653589793 / 180.0

def radians (degrees : Float) : Float := degrees * radiansPerDegree

/-- The great-circle distance of two points in metres. -/
def distance (a b : Point) : Float :=
  let lat₁ := radians a.lat
  let lat₂ := radians b.lat
  let halfLat := Float.sin (radians (b.lat - a.lat) / 2.0)
  let halfLon := Float.sin (radians (b.lon - a.lon) / 2.0)
  let h := halfLat * halfLat + Float.cos lat₁ * Float.cos lat₂ * (halfLon * halfLon)
  2.0 * earthRadius * Float.atan2 (Float.sqrt h) (Float.sqrt (1.0 - h))

/-! ### Roads -/

structure Commute where
  departure : Point
  arrival : Point

/-- The vertices of a path, in order. -/
abbrev Polyline : Type := List Point

namespace Polyline

/-- The points of a flat list of longitudes and latitudes in turn. A last number without a partner
is left out. -/
def ofFlat : List Float → Polyline
  | lon :: lat :: rest => ⟨lat, lon⟩ :: ofFlat rest
  | _ => []

/-- The points of several flat lists, each paired on its own. -/
def ofParts (parts : List (List Float)) : Polyline := parts.flatMap ofFlat

end Polyline

end RouteAlerts
