import RouteAlerts.Announcement.Document
import RouteAlerts.Calendar.Seoul
import RouteAlerts.Schedule.ListPage
import RouteAlerts.Schedule.Slots
import RouteAlerts.Web.Client

/-!
The latest assembly table: found on the list page, which has to be rendered before its posts can be
seen, and read from the detail page.
-/

namespace RouteAlerts.Schedule

open Text Web

inductive Rendering where
  | page (markup : List Char)
  /-- There is nothing that could render it. -/
  | unavailable (reason : List Char)
  | failed (reason : List Char)

/-- What rendering comes to where nothing can render. -/
def Rendering.absent : Rendering := .unavailable "no browser renderer configured".toList

structure Site where
  base : List Char

namespace Site

/-- The site with no slash at the end of its base. -/
def of (base : List Char) : Site := ⟨dropEndWhile (· == '/') base⟩

def standard : Site := of "https://www.spatic.go.kr".toList

def detail (site : Site) (id : Nat) : List Char :=
  site.base ++ "/spatic/assem/getInfoView.do?mgrSeq=".toList ++ natDigits id

end Site

/-- Fetches the details of the latest post about assemblies. Without a renderer, or without such a
post, there is nothing to fetch. -/
def fetch (site : Site) (client : Client) (rendering : Rendering) (fetchedAt : Moment) :
    StateM World (Except SourceError (Option Document)) := do
  match rendering with
  | .unavailable _ => pure (.ok none)
  | .failed reason => pure (.error (.other reason))
  | .page markup =>
    match Post.latest? (Post.list markup) with
    | none => pure (.ok none)
    | some post =>
      let address := site.detail post.id
      match ← client.get address with
      | .error e => pure (.error (.fetch e))
      | .ok response =>
        pure (.ok (some {
          source := .secondarySystem
          date := post.date.getD (Seoul.localDate fetchedAt)
          title := post.title
          address
          content := .page response.text }))

def announce (date : Date) (slot : Slot) : Announcement where
  source := .secondarySystem
  date
  startTime := String.ofList slot.times.start
  endTime := String.ofList slot.times.finish
  places := slot.places.map String.ofList
  headcount := none
  remark := none
  coordinates := none

def read (d : Document) : Except SourceError (List Announcement) :=
  match d.content with
  | .page markup => .ok ((Slot.list markup).map (announce d.date))
  | _ => .error (.wrongKind "table adapter expects an HTML document")

end RouteAlerts.Schedule
