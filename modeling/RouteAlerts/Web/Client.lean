import RouteAlerts.Web.Exchange
import RouteAlerts.Web.Retry

/-!
The client through which every document is fetched: each request carries the same standing fields
and is retried by the same policy.
-/

namespace RouteAlerts.Web

/-- How a client presents itself and how often it tries. -/
structure Client where
  userAgent : Option (List Char) := none
  acceptLanguage : Option (List Char) := some "ko-KR,ko;q=0.9,en;q=0.8".toList
  retry : RetryPolicy := .standard

inductive ClientError where
  | acceptLanguage
  | userAgent
  deriving DecidableEq, Repr

namespace ClientError

def message : ClientError → String
  | acceptLanguage => "invalid Accept-Language header"
  | userAgent => "building reqwest client"

end ClientError

namespace Client

/-- The client, if what it is to say of itself may stand in a message head. -/
def check (c : Client) : Except ClientError Client :=
  if !c.acceptLanguage.all isFieldValue then .error .acceptLanguage
  else if !c.userAgent.all isFieldValue then .error .userAgent
  else .ok c

def accepted : List Char :=
  "text/html,application/xhtml+xml,application/xml;q=0.9,*/*;q=0.8".toList

def standingFields (c : Client) : Fields :=
  ("accept", accepted) ::
  (match c.acceptLanguage with
    | some s => [("accept-language", s)]
    | none => []) ++
  match c.userAgent with
  | some s => [("user-agent", s)]
  | none => []

/-- Sends a request as often as the policy allows. -/
def fetch (c : Client) (r : Request) : StateM World (Except FetchError Response) :=
  let request := { r with fields := c.standingFields ++ r.fields }
  RouteAlerts.retry c.retry FetchError.isPassing (fun _ => pure ()) fun _ => exchange request

def get (c : Client) (address : List Char) : StateM World (Except FetchError Response) :=
  c.fetch { address }

end Client

end RouteAlerts.Web
