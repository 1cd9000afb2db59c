import RouteAlerts.Geo.PointText

/-!
Commands of the command line, and what may be wrong with a line.
-/

namespace RouteAlerts

open Text

inductive CommandName where
  | sync
  | migrate
  | events
  | expire
  | checkRoute
  | help
  deriving DecidableEq, Repr

namespace CommandName

def text : CommandName → String
  | sync => "sync"
  | migrate => "migrate"
  | events => "events"
  | expire => "expire"
  | checkRoute => "check-route"
  | help => "help"

/-- All commands, in the order in which they are listed. -/
def all : List CommandName := [sync, migrate, events, expire, checkRoute, help]

def of? (s : List Char) : Option CommandName := all.find? fun c => c.text.toList == s

end CommandName

inductive Command where
  /-- Collect what the sources announce and store it. -/
  | sync
  /-- Make the table of events. -/
  | migrate
  /-- List the upcoming events. -/
  | events
  /-- Mark the events as ended that are over. -/
  | expire
  /-- List the upcoming events near a commute. -/
  | checkRoute (departure arrival : Point) (threshold : Option Float)
  /-- Explain a command, or all of them. -/
  | help (topic : Option CommandName)

/-- An option that takes a value. -/
inductive CommandOption where
  | departure
  | arrival
  | threshold
  deriving DecidableEq, Repr

namespace CommandOption

/-- The name that is typed, without its hyphens. -/
def text : CommandOption → String
  | departure => "from"
  | arrival => "to"
  | threshold => "threshold-meters"

/-- An option with what stands for its value. -/
def label : CommandOption → String
  | departure => "--from <FROM>"
  | arrival => "--to <TO>"
  | threshold => "--threshold-meters <THRESHOLD_METERS>"

def all : List CommandOption := [departure, arrival, threshold]

def of? (s : List Char) : Option CommandOption := all.find? fun o => o.text.toList == s

end CommandOption

/-- What may be wrong with a line. -/
inductive UsageError where
  | unknownCommand (text : List Char)
  | unexpected (argument : List Char)
  /-- The departure or the arrival is missing. -/
  | incomplete
  | noValue (o : CommandOption)
  | repeated (o : CommandOption)
  | badValue (o : CommandOption) (value reason : List Char)
  /-- The flag for help was given a value. -/
  | helpValue (value : List Char)
  deriving DecidableEq, Repr

def UsageError.message : UsageError → List Char
  | .unknownCommand text => "unrecognized subcommand '".toList ++ text ++ ['\x27']
  | .unexpected argument => "unexpected argument '".toList ++ argument ++ "' found".toList
  | .incomplete => "the following required arguments were not provided:".toList
  | .noValue o =>
    "a value is required for '".toList ++ o.label.toList ++ "' but none was supplied".toList
  | .repeated o =>
    "the argument '".toList ++ o.label.toList ++ "' cannot be used multiple times".toList
  | .badValue o value reason =>
    "invalid value '".toList ++ value ++ "' for '".toList ++ o.label.toList ++ "': ".toList ++ reason
  | .helpValue value =>
    "unexpected value '".toList ++ value ++ "' for '--help' found; no more were expected".toList

end RouteAlerts
