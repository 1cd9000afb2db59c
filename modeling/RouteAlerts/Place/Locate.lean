import RouteAlerts.Geo.Point
import RouteAlerts.Place.Name
import RouteAlerts.Place.Queries
import RouteAlerts.Place.Search

/-!
Where an announcement takes place: at the point that its source ships, else at the first hit of its
queries that lies in the home region, else at a fallback point.
-/

namespace RouteAlerts

open Text

/-- How places are located. -/
structure Region where
  /-- The city that queries start with and that addresses have to name near their start. -/
  city : List Char := "서울".toList
  /-- How many characters of an address count as its start. -/
  addressStart : Nat := 5
  /-- Where everything is that cannot be located. -/
  fallback : Point := ⟨37.5709, 126.9769⟩

inductive Origin where
  | embedded
  | geocoded
  | fallback
  deriving DecidableEq, Repr

def Origin.name : Origin → String
  | embedded => "embedded"
  | geocoded => "geocoded"
  | fallback => "fallback"

structure LocatedPlace where
  point : Point
  origin : Origin

/-- A search for places, with effects of any kind. -/
abbrev Search (m : Type → Type) : Type := List Char → m (Except MapError (Option FoundPlace))

namespace Region

/-- Whether an address lies in the region; one that is not given does. -/
def holds (r : Region) (address : Option String) : Bool :=
  match (address.map fun a => trim a.toList).filter (!·.isEmpty) with
  | none => true
  | some a => contains (a.take r.addressStart) r.city

/-- The point of a search result in the region. -/
def accept (r : Region) : Except MapError (Option FoundPlace) → Option Point
  | .ok (some hit) => if r.holds hit.address then some hit.point else none
  | _ => none

/-- The first of several queries with a hit in the region. Later ones are not asked. -/
def firstHit {m : Type → Type} [Monad m] (r : Region) (search : Search m) :
    List (List Char) → m (Option Point)
  | [] => pure none
  | q :: qs => do
    match r.accept (← search q) with
    | some p => pure (some p)
    | none => firstHit r search qs

/-- The queries for a place as it was announced. -/
def queriesFor (r : Region) (place : List Char) : List (List Char) :=
  let name := PlaceName.normalize place
  if name.isEmpty then [] else Place.queries r.city name

/-- The point of a place, if a search finds it in the region. -/
def resolve {m : Type → Type} [Monad m] (r : Region) (search : Search m) (place : List Char) :
    m (Option Point) :=
  r.firstHit search (r.queriesFor place)

/-- Where something is that comes with a point or a place, or with neither. -/
def locate {m : Type → Type} [Monad m] (r : Region) (search : Search m)
    (place : Option (List Char)) (embedded : Option Point) : m LocatedPlace :=
  match embedded.filter Point.withinKorea, place with
  | some p, _ => pure ⟨p, .embedded⟩
  | none, none => pure ⟨r.fallback, .fallback⟩
  | none, some place => do
    match ← r.resolve search place with
    | some p => pure ⟨p, .geocoded⟩
    | none => pure ⟨r.fallback, .fallback⟩

end Region

end RouteAlerts
