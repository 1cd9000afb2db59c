import RouteAlerts.Announcement.Basic
import RouteAlerts.Calendar.Reader
import RouteAlerts.Event.Basic
import RouteAlerts.Geo.Point
import RouteAlerts.Json.Decoder

/-!
The records in which announcements, events, places and routes are exchanged, read from JSON.
-/

namespace RouteAlerts.Interchange

open Json

def date : Decoder Date := textOf Calendar.date?

def moment : Decoder Moment := textOf Calendar.moment?

def universal : Decoder Moment := textOf Calendar.universal?

def point : Decoder Point := fun v => do
  match ← record ["lat", "lon"] v with
  | [lat, lon] => some ⟨← lat.required float, ← lon.required float⟩
  | _ => none

def announcement : Decoder Announcement := fun v => do
  let fields ← record ["source", "date", "start_time", "end_time", "place_tokens", "headcount",
    "remark", "coordinates"] v
  match fields with
  | [source, day, start, finish, places, headcount, remark, coordinates] =>
    some {
      source := ← source.required (oneOf Source.named)
      date := ← day.required date
      startTime := ← start.required text
      endTime := ← finish.required text
      places := ← places.required (list text)
      headcount := ← headcount.nullable (natBelow (Text.numbersOf 32))
      remark := ← remark.nullable text
      coordinates := ← coordinates.withDefault (optional point) none }
  | _ => none

def draftNames : List String :=
  ["title", "description", "location_name", "location_address", "latitude", "longitude",
    "start_date", "end_date", "category", "severity_level", "status"]

def draftOfFields : List Field → Option EventDraft
  | [title, description, name, address, lat, lon, start, finish, category, severity, status] => do
    some {
      title := ← title.required text
      description := ← description.nullable text
      locationName := ← name.required text
      locationAddress := ← address.nullable text
      point := ⟨← lat.required float, ← lon.required float⟩
      start := ← start.required moment
      finish := ← finish.required moment
      category := ← category.nullable text
      severity := ← severity.required (natBelow 256)
      status := ← status.required (oneOf EventStatus.named) }
  | _ => none

def draft : Decoder EventDraft := fun v => do draftOfFields (← record draftNames v)

def event : Decoder Event := fun v => do
  let fields ← record (["id"] ++ draftNames ++ ["created_at", "updated_at"]) v
  match fields with
  | id :: rest =>
    match rest.drop draftNames.length with
    | [created, updated] =>
      some {
        id := ← id.required int64
        draft := ← draftOfFields (rest.take draftNames.length)
        createdAt := ← created.required universal
        updatedAt := ← updated.required universal }
    | _ => none
  | [] => none

def foundPlace : Decoder FoundPlace := fun v => do
  match ← record ["name", "address", "longitude", "latitude"] v with
  | [name, address, lon, lat] =>
    some {
      name := ← name.required text
      address := ← address.nullable text
      point := ⟨← lat.required float, ← lon.required float⟩ }
  | _ => none

def commute : Decoder Commute := fun v => do
  match ← record ["departure", "arrival"] v with
  | [departure, arrival] => some ⟨← departure.required point, ← arrival.required point⟩
  | _ => none

def polyline : Decoder Polyline := fun v => do
  match ← record ["vertices"] v with
  | [vertices] => vertices.required (list point)
  | _ => none

end RouteAlerts.Interchange
