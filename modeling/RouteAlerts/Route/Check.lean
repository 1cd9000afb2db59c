import RouteAlerts.Place.Search
import RouteAlerts.Route.Proximity

/-!
Commutes checked against events. Each check stands on its own: a road that cannot be had in time
leaves the ends of the commute.
-/

namespace RouteAlerts

/-- What asking for a road came to. -/
inductive Lookup where
  | found (line : Polyline)
  | failed
  /-- No answer in time. -/
  | late

namespace Lookup

def ofAnswer : Except MapError Polyline → Lookup
  | .ok line => found line
  | .error _ => failed

def line? : Lookup → Option Polyline
  | found line => some line
  | failed | late => none

end Lookup

structure RouteCheck where
  commute : Commute
  /-- Whether a road decided, and not the ends alone. -/
  usedRoad : Bool
  events : List Event

namespace RouteCheck

def of (threshold : Float) (events : List Event) (commute : Commute) (lookup : Lookup) :
    RouteCheck :=
  let shape := RouteShape.of commute lookup.line?
  ⟨commute, shape.isRoad, shape.eventsNear threshold events⟩

/-- Checks several commutes, each with its own lookup, in order. -/
def all {m : Type → Type} [Monad m] (lookup : Commute → m Lookup) (threshold : Float)
    (events : List Event) : List Commute → m (List RouteCheck)
  | [] => pure []
  | c :: cs => do
    let check := of threshold events c (← lookup c)
    let rest ← all lookup threshold events cs
    pure (check :: rest)

end RouteCheck

end RouteAlerts
