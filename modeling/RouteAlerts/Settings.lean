import RouteAlerts.Place.Locate
import RouteAlerts.Route.Proximity
import RouteAlerts.Web.Client

/-!
Settings, read from the environment. What is not set, blank, or no number where a number is expected
takes its standard value.
-/

namespace RouteAlerts

open Text

/-- The values of variables, as far as they are set. -/
abbrev Environment : Type := String → Option (List Char)

def pathBelow (directory name : List Char) : List Char :=
  match directory.getLast? with
  | none | some '/' => directory ++ name
  | some _ => directory ++ '/' :: name

structure Settings where
  databaseUrl : List Char := "sqlite:ara.db?mode=rwc".toList
  /-- Where downloaded bulletins are kept. -/
  archiveRoot : List Char
  /-- Whether bulletins stay there once they have been read. -/
  keepsBulletins : Bool := false
  reportsRoot : List Char := "./reports".toList
  userAgent : List Char := "Mozilla/5.0 (compatible; ara-bot/0.1)".toList
  requestSeconds : Nat := 20
  attempts : Nat := 3
  retryMillis : Nat := 2000
  /-- The key to the map service. -/
  mapKey : Option (List Char) := none
  city : List Char := "서울".toList
  district : List Char := "서울특별시 종로구".toList
  fallback : Point := ⟨37.5709, 126.9769⟩
  /-- The wait between two queries for one place. -/
  queryMillis : Nat := 50
  threshold : Float := standardThreshold
  runSeconds : Nat := 600
  /-- Where a browser can be driven that renders pages. -/
  browserUrl : Option (List Char) := none
  boardUrl : List Char := "https://www.smpa.go.kr/user/nd54882.do".toList
  tableUrl : List Char := "https://www.spatic.go.kr/spatic/main/assem.do".toList

namespace Settings

def standard (temporary : List Char) : Settings where
  archiveRoot := pathBelow temporary "ara-bulletins".toList

/-- The value of a variable, trimmed, unless it is blank. -/
def value? (env : Environment) (name : String) : Option (List Char) :=
  ((env name).map trim).filter (!·.isEmpty)

/-- The value of a variable as a whole number of 64 bits. -/
def natural? (env : Environment) (name : String) : Option Nat :=
  (value? env name).bind (readNat? (numbersOf 64))

def number? (env : Environment) (name : String) : Option Float :=
  (value? env name).bind fun s =>
    match Decimal.read s with
    | .ok x => some x
    | .error _ => none

def yes : List (List Char) := ["1", "true", "TRUE", "True"].map String.toList

/-- The settings of an environment. There is at least one attempt. -/
def ofEnvironment (temporary : List Char) (env : Environment) : Settings :=
  let unset := standard temporary
  { databaseUrl := (value? env "DATABASE_URL").getD unset.databaseUrl
    archiveRoot := (value? env "ARTIFACTS_DIR").getD unset.archiveRoot
    keepsBulletins := ((value? env "ARA_KEEP_ARTIFACTS").map yes.contains).getD unset.keepsBulletins
    reportsRoot := (value? env "REPORTS_DIR").getD unset.reportsRoot
    userAgent := (value? env "ARA_USER_AGENT").getD unset.userAgent
    requestSeconds := (natural? env "ARA_HTTP_TIMEOUT_SECS").getD unset.requestSeconds
    attempts := max 1 ((natural? env "ARA_RETRY_ATTEMPTS").getD unset.attempts)
    retryMillis := (natural? env "ARA_RETRY_BASE_MS").getD unset.retryMillis
    mapKey := value? env "KAKAO_REST_API_KEY"
    city := (value? env "ARA_HOME_CITY").getD unset.city
    district := (value? env "ARA_HOME_DISTRICT").getD unset.district
    fallback :=
      ⟨(number? env "ARA_DEFAULT_LAT").getD unset.fallback.lat,
        (number? env "ARA_DEFAULT_LON").getD unset.fallback.lon⟩
    queryMillis := (natural? env "ARA_GEOCODE_DELAY_MS").getD unset.queryMillis
    threshold := (number? env "ARA_ROUTE_THRESHOLD_METERS").getD unset.threshold
    runSeconds := (natural? env "ARA_RUN_TIMEOUT_SECS").getD unset.runSeconds
    browserUrl := value? env "ARA_WEBDRIVER_URL"
    boardUrl := (value? env "ARA_SMPA_LIST_URL").getD unset.boardUrl
    tableUrl := (value? env "ARA_SPATIC_LIST_URL").getD unset.tableUrl }

/-! ### What follows from them -/

def databaseInMemory (s : Settings) : Bool :=
  ["sqlite::memory:", "sqlite://:memory:"].any fun url => url.toList == s.databaseUrl

def requestsAtOnce : Nat := 8

def requestTimeout (s : Settings) : Duration := .ofSeconds s.requestSeconds

def retry (s : Settings) : RetryPolicy := ⟨s.attempts, .ofMillis s.retryMillis⟩

def client (s : Settings) : Web.Client where
  userAgent := some s.userAgent
  retry := s.retry

def region (s : Settings) : Region where
  city := s.city
  fallback := s.fallback

def queryDelay (s : Settings) : Duration := .ofMillis s.queryMillis

/-- How long a run may take to locate its announcements. -/
def runTimeout (s : Settings) : Duration := .ofSeconds s.runSeconds

end Settings

end RouteAlerts
