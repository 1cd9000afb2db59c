import RouteAlerts.Json.Printer
import RouteAlerts.Run.Id
import RouteAlerts.Run.Summary
import RouteAlerts.Settings

/-!
Reports of runs: a brief for people, and a record with the same facts for programs. Both lie in a
directory that is named after the run.
-/

namespace RouteAlerts

open Text

structure RunRecord where
  id : RunId
  startedAt : Moment
  finishedAt : Moment
  summary : RunSummary
  /-- The directory of the run's reports. -/
  directory : List Char

/-- The directory of a run's reports below the directory of all reports. -/
def RunId.directory (id : RunId) (root : List Char) : List Char := pathBelow root id.text

def SourceReport.line (s : SourceReport) : List Char :=
  "- ".toList ++ s.source.id.toList ++ ": ".toList ++ natDigits s.rows ++ " rows".toList ++
  match s.error with
  | some e => " (error: ".toList ++ e ++ [')']
  | none => []

def SourceReport.record (s : SourceReport) : Json.Value (List Char) :=
  let text (t : Option (List Char)) : Json.Value (List Char) := (t.map .string).getD .null
  .object [
    ("source".toList, .string s.source.name.toList),
    ("rows".toList, .number (.ofNat s.rows)),
    ("document_url".toList, text s.address),
    ("document_title".toList, text s.title),
    ("error".toList, text s.error)]

def SyncOutcome.record (o : SyncOutcome) : Json.Value (List Char) :=
  .object [
    ("inserted".toList, .number (.ofNat o.inserted)),
    ("duplicates".toList, .number (.ofNat o.duplicates)),
    ("failed".toList, .number (.ofNat o.failed))]

namespace RunRecord

def momentLine (m : Moment) : List Char := m.spaced ++ " UTC".toList

/-- The facts of the brief, one a line. -/
def facts (r : RunRecord) : List (String × List Char) :=
  [("Run ID", '\x60' :: r.id.text ++ ['\x60']),
   ("Started", momentLine r.startedAt),
   ("Finished", momentLine r.finishedAt),
   ("Status", r.summary.status.name.toList),
   ("Merged rows", natDigits r.summary.mergedRows),
   ("Events built", natDigits r.summary.builtEvents ++ " (".toList ++
     natDigits r.summary.fallbacks ++ " on fallback coordinates)".toList),
   ("Inserted", natDigits r.summary.outcome.inserted),
   ("Duplicates", natDigits r.summary.outcome.duplicates),
   ("Failed", natDigits r.summary.outcome.failed)]

def brief (r : RunRecord) : List Char :=
  "# Assembly Brief\n\n".toList ++
  (r.facts.flatMap fun (name, fact) => "- ".toList ++ name.toList ++ ": ".toList ++ fact ++ ['\n']) ++
  "\n## Sources\n".toList ++
  joinWith ['\n'] (r.summary.sources.map SourceReport.line) ++ ['\n']

def value (r : RunRecord) : Json.Value (List Char) :=
  .object [
    ("run_id".toList, .string r.id.text),
    ("started_at".toList, .string (r.startedAt.text ++ ['Z'])),
    ("finished_at".toList, .string (r.finishedAt.text ++ ['Z'])),
    ("status".toList, .string r.summary.status.name.toList),
    ("sources".toList, .array (r.summary.sources.map SourceReport.record)),
    ("merged_rows".toList, .number (.ofNat r.summary.mergedRows)),
    ("built_events".toList, .number (.ofNat r.summary.builtEvents)),
    ("geocode_fallbacks".toList, .number (.ofNat r.summary.fallbacks)),
    ("deadline_reached".toList, .bool r.summary.deadlineReached),
    ("outcome".toList, r.summary.outcome.record),
    ("reports_dir".toList, .string r.directory)]

def text (r : RunRecord) : List Char := Json.pretty 0 r.value

end RunRecord

end RouteAlerts
