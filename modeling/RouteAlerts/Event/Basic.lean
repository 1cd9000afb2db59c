import RouteAlerts.Calendar.Moment
import RouteAlerts.Geo.Point
import RouteAlerts.Text.Blank
import RouteAlerts.Text.Quoted

/-!
Events: what is stored and matched against routes. A draft is an event before it has an identifier.
-/

namespace RouteAlerts

inductive EventStatus where
  | active
  | ended
  | cancelled
  deriving DecidableEq, Repr

namespace EventStatus

def name : EventStatus → String
  | .active => "active"
  | .ended => "ended"
  | .cancelled => "cancelled"

def named : List (String × EventStatus) :=
  [(active.name, active), (ended.name, ended), (cancelled.name, cancelled)]

/-- A text that names no status, trimmed. -/
structure Unknown where
  text : List Char

/-- What is said about a text that names no status. -/
def Unknown.message (e : Unknown) : String :=
  String.ofList ("unknown event status ".toList ++ Text.quoted e.text)

/-- The status with exactly this name. -/
def ofName? (s : List Char) : Option EventStatus :=
  (named.find? fun (name, _) => name.toList == s).map Prod.snd

/-- The status that a text names, blanks around it allowed. -/
def read (s : List Char) : Except Unknown EventStatus :=
  match ofName? (Text.trim s) with
  | some status => .ok status
  | none => .error ⟨Text.trim s⟩

end EventStatus

/-- An event ready to be stored. -/
structure EventDraft where
  title : String
  description : Option String
  locationName : String
  locationAddress : Option String
  point : Point
  start : Moment
  finish : Moment
  category : Option String
  severity : Nat
  status : EventStatus

structure Event where
  id : Int
  draft : EventDraft
  createdAt : Moment
  updatedAt : Moment

end RouteAlerts
