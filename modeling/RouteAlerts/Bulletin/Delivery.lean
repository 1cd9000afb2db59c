import RouteAlerts.Announcement.Document
import RouteAlerts.Bulletin.Attachment
import RouteAlerts.Bulletin.Slots
import RouteAlerts.Calendar.Seoul
import RouteAlerts.Web.Client

/-!
The bulletin of the day: found on the board, downloaded, stored, and read. Every candidate is tried
in order; one that fails leaves the next one its chance.
-/

namespace RouteAlerts.Bulletin

open Text Web

structure Site where
  base : List Char
  list : List Char

namespace Site

/-- The site with no slash at the end of its base. -/
def of (base list : List Char) : Site := ⟨dropEndWhile (· == '/') base, list⟩

def standard : Site :=
  of "https://www.smpa.go.kr".toList "https://www.smpa.go.kr/user/nd54882.do".toList

end Site

/-- The first of several addresses that answers with a page, and the page. -/
def firstPage? (client : Client) : List (List Char) → StateM World (Option (List Char × List Char))
  | [] => pure none
  | view :: views => do
    match ← client.get view with
    | .ok response =>
      if response.isPage then pure (some (view, response.text)) else firstPage? client views
    | .error _ => firstPage? client views

def Attachment.bulletin? (a : Attachment) (response : Response) : Option (Bytes × List Char) :=
  match (Payload.of response.contentType response.body).bytes? with
  | some bytes =>
    if isPdf response bytes then some (bytes, a.fileName response.contentDisposition) else none
  | none => none

/-- The first of several files that turns out to be a bulletin. -/
def firstBulletin? (client : Client) (view : List Char) :
    List Attachment → StateM World (Option (Bytes × List Char))
  | [] => pure none
  | a :: rest => do
    match ← client.fetch (a.request view) with
    | .ok response =>
      match a.bulletin? response with
      | some found => pure (some found)
      | none => firstBulletin? client view rest
    | .error _ => firstBulletin? client view rest

def findPost (site : Site) (client : Client) (today : Date) :
    StateM World (Except SourceError Post) := do
  match ← client.get site.list with
  | .error e => pure (.error (.fetch e))
  | .ok response =>
    match Post.find? (Post.list response.text) today with
    | some post => pure (.ok post)
    | none => pure (.error (.noPost today))

/-- The bulletin attached to a post: the address of the page, the file and its name. -/
def download (site : Site) (client : Client) (post : Post) :
    StateM World (Except SourceError (List Char × Bytes × List Char)) := do
  match ← firstPage? client (post.views site.base) with
  | none => pure (.error (.other ("no view page responded for post ".toList ++ post.number)))
  | some (view, markup) =>
    match ← firstBulletin? client view (Attachment.list markup site.base) with
    | some (bytes, name) => pure (.ok (view, bytes, name))
    | none => pure (.error (.noAttachment view))

def fetch (site : Site) (client : Client) (fetchedAt : Moment) (archive : Archive) :
    StateM World (Except SourceError Document × Archive) := do
  let today := Seoul.localDate fetchedAt
  match ← findPost site client today with
  | .error e => pure (.error e, archive)
  | .ok post =>
    match ← download site client post with
    | .error e => pure (.error e, archive)
    | .ok (view, bytes, name) =>
      match archive.store fetchedAt Source.primaryBoard.id.toList name bytes with
      | .error e => pure (.error (.archive e), archive)
      | .ok (archive, artifact) =>
        pure (.ok {
          source := .primaryBoard
          date := post.date?.getD today
          title := post.title
          address := view
          content := .pdf bytes
          artifact := some artifact }, archive)

/-- The announcements of a document. `extract` finds the text of a file. -/
def read (extract : Bytes → Option (List Char)) (d : Document) :
    Except SourceError (List Announcement) :=
  match d.content with
  | .pdf bytes =>
    match extract bytes with
    | some s => .ok (announcements s d.date)
    | none => .error .noText
  | .text s => .ok (announcements s d.date)
  | .page _ => .error (.wrongKind "bulletin adapter expects a PDF document")

end RouteAlerts.Bulletin
