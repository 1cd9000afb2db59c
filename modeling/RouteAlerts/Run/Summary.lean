import RouteAlerts.Announcement.Basic
import RouteAlerts.Event.Store
import RouteAlerts.Web.Retry

/-!
What is known of a run once it is over: what each source contributed, what became of the events, and
why a run may come to nothing.
-/

namespace RouteAlerts

inductive RunStatus where
  | success
  /-- A source failed, an event was refused, or there was no time for all of them. -/
  | warning
  deriving DecidableEq, Repr

namespace RunStatus

def name : RunStatus → String
  | success => "success"
  | warning => "warning"

def named : List (String × RunStatus) := [(success.name, success), (warning.name, warning)]

end RunStatus

structure SourceReport where
  source : Source
  rows : Nat := 0
  address : Option (List Char) := none
  title : Option (List Char) := none
  /-- Why it contributed nothing. -/
  error : Option (List Char) := none

structure RunSummary where
  status : RunStatus
  sources : List SourceReport
  /-- The announcements left after merging. -/
  mergedRows : Nat
  builtEvents : Nat
  /-- How many of the events are at the fallback point. -/
  fallbacks : Nat
  deadlineReached : Bool
  outcome : SyncOutcome

inductive RunError where
  /-- No source announced anything. -/
  | noEvents
  /-- The time was up before the first event. -/
  | timeout (limit : Duration)
  deriving DecidableEq, Repr

def RunError.message : RunError → String
  | .noEvents => "no assembly rows from any source"
  | .timeout limit =>
    String.ofList ("run deadline of ".toList ++ limit.text ++
      " reached before any event was built".toList)

end RouteAlerts
