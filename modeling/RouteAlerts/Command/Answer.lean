import RouteAlerts.Command.Arguments
import RouteAlerts.Command.Help
import RouteAlerts.Decimal.Fixed
import RouteAlerts.Route.Check
import RouteAlerts.Route.Directions
import RouteAlerts.Run.Basic

/-!
Commands carried out: what they print, with what code they end, and what they leave behind.
-/

namespace RouteAlerts

open Text Web

structure Answer where
  code : Nat := 0
  out : List Char := []
  /-- The complaint of a command that fails. -/
  complaint : Option (List Char) := none

namespace Answer

def printed (out : List Char) : Answer := { out }

def failed (reason : List Char) : Answer := {
  code := 1
  complaint := some ("Error: ".toList ++ reason) }

/-- A line that is no command. -/
def misused (e : UsageError) : Answer := {
  code := 2
  complaint := some ("error: ".toList ++ e.message) }

end Answer

structure CommandContext where
  settings : Settings
  mark : RunMark
  /-- The local time. -/
  now : Moment
  /-- Whether the database can be opened. -/
  opens : Bool
  /-- Finds the text of a file. -/
  extract : Bytes → Option (List Char)

def DatabaseError.message : DatabaseError → String
  | noTable => "database error: no such table: events"
  | unreadable => "database error: a stored timestamp cannot be read"

namespace CommandContext

def placeService (ctx : CommandContext) : MapService :=
  ⟨ctx.settings.client, ctx.settings.mapKey, PlaceSearch.standardAddress⟩

def roadService (ctx : CommandContext) : MapService :=
  ⟨ctx.settings.client, ctx.settings.mapKey, Directions.standardAddress⟩

def setup (ctx : CommandContext) : RunSetup where
  settings := ctx.settings
  feeds := Feed.standard ctx.extract ctx.settings
  search := PlaceSearch.search ctx.placeService

end CommandContext

/-! ### Lines -/

/-- A moment as a line shows it: date, hour and minute. -/
def Moment.shown (m : Moment) : List Char := m.date.text ++ ' ' :: m.time.clockText

def Event.idText (e : Event) : List Char :=
  match e.id with
  | .ofNat n => natDigits n
  | .negSucc n => '-' :: natDigits (n + 1)

def Event.line (e : Event) : List Char :=
  let place := '(' :: Decimal.fixed 5 e.draft.point.lat ++ ", ".toList ++
    Decimal.fixed 5 e.draft.point.lon ++ [')']
  joinWith ['\t'] [e.idText, e.draft.start.shown ++ '~' :: e.draft.finish.time.clockText,
    e.draft.title.toList, place] ++ ['\n']

def Event.shortLine (e : Event) : List Char :=
  joinWith ['\t'] [e.idText, e.draft.start.shown, e.draft.title.toList] ++ ['\n']

def eventsPage (events : List Event) : List Char :=
  events.flatMap Event.line ++ natDigits events.length ++ " upcoming events\n".toList

/-- The events near a commute, under a line that says how they were found. -/
def RouteCheck.page (check : RouteCheck) (total : Nat) (threshold : Float) : List Char :=
  let basis := if check.usedRoad then "road polyline" else "straight line"
  natDigits check.events.length ++ " of ".toList ++ natDigits total ++
  " upcoming events near route (".toList ++ basis.toList ++ ", ".toList ++
  Decimal.shortest threshold ++ " m)\n".toList ++ check.events.flatMap Event.shortLine

def RunRecord.line (r : RunRecord) : List Char :=
  let facts : List (String × List Char) := [
    ("run_id", r.id.text),
    ("status", r.summary.status.name.toList),
    ("merged", natDigits r.summary.mergedRows),
    ("inserted", natDigits r.summary.outcome.inserted),
    ("duplicates", natDigits r.summary.outcome.duplicates),
    ("failed", natDigits r.summary.outcome.failed),
    ("reports", r.directory)]
  "sync complete: ".toList ++
  joinWith [' '] (facts.map fun (name, fact) => name.toList ++ '=' :: fact) ++ ['\n']

/-! ### Commands -/

namespace Command

/-- What is said of a database that cannot be opened. -/
def unopened : String :=
  "database error: error returned from database: (code: 14) unable to open database file"

/-- Collects what the sources announce and stores it. -/
def answerSync (ctx : CommandContext) (holdings : Holdings) : StateM World (Answer × Holdings) := do
  let holdings := { holdings with database := holdings.database.migrate }
  match ctx.settings.client.check with
  | .error e => pure (.failed e.message.toList, holdings)
  | .ok _ =>
    match ← ctx.setup.run ctx.mark holdings with
    | (.error e, holdings) => pure (.failed e.message.toList, holdings)
    | (.ok _, holdings) =>
      pure (.printed ((holdings.records.getLast?.map RunRecord.line).getD []), holdings)

def answerMigrate (holdings : Holdings) : Answer × Holdings :=
  (.printed ("migrations applied: ".toList ++ natDigits Database.migrations ++ ['\n']),
    { holdings with database := holdings.database.migrate })

def answerEvents (ctx : CommandContext) (holdings : Holdings) : Answer × Holdings :=
  let database := holdings.database.migrate
  let answer := match database.upcoming ctx.now with
    | .ok upcoming => .printed (eventsPage upcoming)
    | .error e => .failed e.message.toList
  (answer, { holdings with database })

def answerExpire (ctx : CommandContext) (holdings : Holdings) : Answer × Holdings :=
  let database := holdings.database.migrate
  match database.endBefore ctx.now ctx.now with
  | .ok (database, n) =>
    (.printed ("marked ".toList ++ natDigits n ++ " events as ended\n".toList),
      { holdings with database })
  | .error e => (.failed e.message.toList, { holdings with database })

def answerCheckRoute (ctx : CommandContext) (commute : Commute) (threshold : Option Float)
    (holdings : Holdings) : StateM World (Answer × Holdings) := do
  let database := holdings.database.migrate
  let holdings := { holdings with database }
  match database.upcoming ctx.now, ctx.settings.client.check with
  | .error e, _ => pure (.failed e.message.toList, holdings)
  | .ok _, .error e => pure (.failed e.message.toList, holdings)
  | .ok upcoming, .ok _ =>
    let threshold := threshold.getD ctx.settings.threshold
    let lookup := Lookup.ofAnswer (← Directions.ask ctx.roadService commute)
    let check := RouteCheck.of threshold upcoming commute lookup
    pure (.printed (check.page upcoming.length threshold), holdings)

def answer (ctx : CommandContext) (command : Command) (holdings : Holdings) :
    StateM World (Answer × Holdings) :=
  match command, ctx.opens with
  | .help topic, _ => pure (.printed (Help.text topic), holdings)
  | .sync, false => pure (.failed unopened.toList, holdings)
  | _, false => pure (.failed ("opening ".toList ++ ctx.settings.databaseUrl), holdings)
  | .sync, true => answerSync ctx holdings
  | .migrate, true => pure (answerMigrate holdings)
  | .events, true => pure (answerEvents ctx holdings)
  | .expire, true => pure (answerExpire ctx holdings)
  | .checkRoute departure arrival threshold, true =>
    answerCheckRoute ctx ⟨departure, arrival⟩ threshold holdings

/-- Carries out a command on the database that the settings name. One in memory is empty and is gone
afterwards. -/
def answerThere (ctx : CommandContext) (command : Command) (holdings : Holdings) :
    StateM World (Answer × Holdings) := do
  if ctx.settings.databaseInMemory then
    let (answer, after) ← command.answer { ctx with opens := true } { holdings with database := {} }
    pure (answer, { after with database := holdings.database })
  else command.answer ctx holdings

def answerLine (ctx : CommandContext) (arguments : List (List Char)) (holdings : Holdings) :
    StateM World (Answer × Holdings) :=
  match read arguments with
  | .ok command => command.answerThere ctx holdings
  | .error e => pure (.misused e, holdings)

end Command

end RouteAlerts
