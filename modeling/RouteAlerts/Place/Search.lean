import RouteAlerts.Decimal.Read
import RouteAlerts.Geo.Point
import RouteAlerts.Json.Decoder
import RouteAlerts.Json.Reader
import RouteAlerts.Text.Blank
import RouteAlerts.Text.Quoted
import RouteAlerts.Web.Client

/-!
The keyword search for places: how a query is sent, and what its response says.
-/

namespace RouteAlerts

open Text Web

inductive MapError where
  | noKey
  | fetch (e : FetchError)
  /-- The response is not of the form that it should have. -/
  | undecodable
  /-- A coordinate is no number. -/
  | badCoordinate (text : List Char)

namespace MapError

/-- The wording of the error, where it is this library's own. -/
def message? : MapError → Option String
  | noKey => some "KAKAO_REST_API_KEY is not configured"
  | fetch (.status code address) => some (FetchError.statusMessage code address)
  | fetch _ => none
  | undecodable => none
  | badCoordinate text => some (String.ofList ("invalid coordinate ".toList ++ quoted text))

end MapError

structure MapService where
  client : Client
  key : Option (List Char)
  address : List Char

namespace MapService

/-- The key, unless it is blank. -/
def key? (s : MapService) : Option (List Char) := s.key.filter (!isAllBlank ·)

def ask (s : MapService) (query : List (List Char × List Char)) :
    StateM World (Except MapError Response) := do
  match s.key? with
  | none => pure (.error .noKey)
  | some key =>
    let request : Request := {
      address := s.address
      query
      fields := [("authorization", "KakaoAK ".toList ++ key)] }
    match ← s.client.fetch request with
    | .ok response => pure (.ok response)
    | .error e => pure (.error (.fetch e))

end MapService

namespace PlaceSearch

def standardAddress : List Char := "https://dapi.kakao.com/v2/local/search/keyword.json".toList

structure Entry where
  name : String
  roadAddress : String
  lotAddress : String
  x : String
  y : String

def entry : Json.Decoder Entry := fun v => do
  match ← Json.record ["place_name", "road_address_name", "address_name", "x", "y"] v with
  | [name, road, lot, x, y] =>
    some {
      name := ← name.withDefault Json.text ""
      roadAddress := ← road.withDefault Json.text ""
      lotAddress := ← lot.withDefault Json.text ""
      x := ← x.required Json.text
      y := ← y.required Json.text }
  | _ => none

def entries : Json.Decoder (List Entry) := fun v => do
  match ← Json.record ["documents"] v with
  | [documents] => documents.withDefault (Json.list entry) []
  | _ => none

/-- A coordinate, blanks around it allowed. -/
def coordinate (text : String) : Except MapError Float :=
  match Decimal.read (trim text.toList) with
  | .ok x => .ok x
  | .error _ => .error (.badCoordinate text.toList)

/-- The first of an entry's addresses that is not blank, trimmed. -/
def addressOf (e : Entry) : Option String :=
  (([e.roadAddress, e.lotAddress].map fun s => trim s.toList).find? (!·.isEmpty)).map String.ofList

/-- The place of an entry. -/
def placeOf (e : Entry) : Except MapError FoundPlace := do
  let lon ← coordinate e.x
  let lat ← coordinate e.y
  .ok ⟨e.name, addressOf e, ⟨lat, lon⟩⟩

def read (body : Bytes) : Except MapError (Option FoundPlace) :=
  match (Json.readBytes body).bind entries with
  | none => .error .undecodable
  | some [] => .ok none
  | some (e :: _) => (placeOf e).map some

def search (service : MapService) (query : List Char) :
    StateM World (Except MapError (Option FoundPlace)) := do
  match ← service.ask [("query".toList, query)] with
  | .ok response => pure (read response.body)
  | .error e => pure (.error e)

end PlaceSearch

end RouteAlerts
