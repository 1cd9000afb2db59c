import RouteAlerts.Command.Basic
import RouteAlerts.Text.Split

/-!
Explanations of the command line: what there is, how it is called, and a table of what may follow.
-/

namespace RouteAlerts

open Text

def CommandName.about : CommandName → String
  | sync => "Collect today's assembly schedule and store new events"
  | migrate => "Apply database migrations"
  | events => "List upcoming active events"
  | expire => "Mark events that are over as ended"
  | checkRoute => "List upcoming events near a commute"
  | help => "Print this message or the help of the given subcommand(s)"

def CommandOption.about : CommandOption → String
  | departure => "Departure as \x60lat,lon\x60"
  | arrival => "Arrival as \x60lat,lon\x60"
  | threshold => "Override the configured proximity threshold"

namespace Command.Help

/-- A titled table of two columns, the second one aligned. -/
def table (title : String) (lines : List (String × String)) : List Char :=
  let width := lines.foldl (fun n (left, _) => max n left.length) 0
  title.toList ++ ":\n".toList ++ lines.flatMap fun (left, right) =>
    "  ".toList ++ left.toList ++ List.replicate (width - left.length + 2) ' ' ++ right.toList ++ ['\n']

def flag : String × String := ("-h, --help", "Print help")

/-- What is said about the program: a description, the way to call it, and tables. -/
def page (about usage : String) (tables : List (List Char)) : List Char :=
  joinWith ['\n'] ((about.toList ++ ['\n']) ::
    ("Usage: ara-cli".toList ++ usage.toList ++ ['\n']) :: tables)

def program : List Char :=
  page "Assembly route alerts: daily sync and route checks" " [COMMAND]" [
    table "Commands" (CommandName.all.map fun c => (c.text, c.about)),
    table "Options" [flag]]

def command (c : CommandName) : List Char :=
  match c with
  | .checkRoute =>
    page c.about " check-route [OPTIONS] --from <FROM> --to <TO>" [
      table "Options"
        ((CommandOption.all.map fun o => ("    " ++ o.label, o.about)) ++ [flag])]
  | .help =>
    page c.about " help [COMMAND]..." [
      table "Arguments" [("[COMMAND]...", "Print help for the subcommand(s)")]]
  | _ => page c.about (" " ++ c.text) [table "Options" [flag]]

def text : Option CommandName → List Char
  | some c => command c
  | none => program

end Command.Help

end RouteAlerts
