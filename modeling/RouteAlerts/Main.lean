import RouteAlerts.Calendar.Seoul
import RouteAlerts.Command.Answer
import Std.Time.DateTime.Timestamp

/-!
The command line: reads the arguments, the environment and the clock, answers one command, and
prints what came of it. No server is asked and no file is written, so every call starts with an
empty database and every source is unreachable.
-/

namespace RouteAlerts.Command

/-- The variables that settings are read from. -/
def variableNames : List String :=
  ["DATABASE_URL", "ARTIFACTS_DIR", "ARA_KEEP_ARTIFACTS", "REPORTS_DIR", "ARA_USER_AGENT",
    "ARA_HTTP_TIMEOUT_SECS", "ARA_RETRY_ATTEMPTS", "ARA_RETRY_BASE_MS", "KAKAO_REST_API_KEY",
    "ARA_HOME_CITY", "ARA_HOME_DISTRICT", "ARA_DEFAULT_LAT", "ARA_DEFAULT_LON",
    "ARA_GEOCODE_DELAY_MS", "ARA_ROUTE_THRESHOLD_METERS", "ARA_RUN_TIMEOUT_SECS",
    "ARA_WEBDRIVER_URL", "ARA_SMPA_LIST_URL", "ARA_SPATIC_LIST_URL"]

/-- The environment made of pairs of a name and a value. -/
def environmentOf (pairs : List (String × List Char)) : Environment := fun name => pairs.lookup name

def contextAt (env : Environment) (utc : Moment) (random : Nat) : CommandContext where
  settings := Settings.ofEnvironment ((env "TMPDIR").getD "/tmp".toList) env
  mark := {
    id := RunId.ofRandom random
    startedAt := utc
    finishedAt := utc
    elapsed := fun _ => .ofSeconds 0 }
  now := (Seoul.localMoment? utc).getD utc
  opens := true
  extract := fun _ => none

def currentEnvironment : IO Environment := do
  let pairs ← ("TMPDIR" :: variableNames).filterMapM fun name => do
    pure ((← IO.getEnv name).map fun value => (name, value.toList))
  pure (environmentOf pairs)

def currentMoment : IO Moment := do
  let seconds := (← Std.Time.Timestamp.now).toSecondsSinceUnixEpoch.val
  pure ((Moment.ofSeconds? seconds).getD Moment.epoch)

end RouteAlerts.Command

/-- Answers the command of the arguments; the exit code says how that went. -/
def main (arguments : List String) : IO UInt32 := do
  let env ← RouteAlerts.Command.currentEnvironment
  let utc ← RouteAlerts.Command.currentMoment
  let random ← IO.rand 0 (RouteAlerts.Text.numbersOf 128 - 1)
  let context := RouteAlerts.Command.contextAt env utc random
  let answering := RouteAlerts.Command.answerLine context (arguments.map String.toList) {}
  let ((answer, _), _) := answering.run { reachable := false }
  IO.print (String.ofList answer.out)
  if let some complaint := answer.complaint then
    IO.eprintln (String.ofList complaint)
  pure (UInt32.ofNat answer.code)
