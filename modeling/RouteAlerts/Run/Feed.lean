import RouteAlerts.Bulletin.Delivery
import RouteAlerts.Run.Summary
import RouteAlerts.Schedule.Delivery
import RouteAlerts.Settings

/-!
Feeds: how a run obtains the announcements of a source. A feed that fails contributes nothing and
says why; it never keeps another one from contributing.
-/

namespace RouteAlerts

open Web

/-- What reading a document came to. -/
inductive Reading where
  | announced (rows : List Announcement)
  | refused (e : SourceError)
  /-- The reader broke down. -/
  | aborted

namespace Reading

def of : Except SourceError (List Announcement) → Reading
  | .ok rows => announced rows
  | .error e => refused e

def rows : Reading → List Announcement
  | announced rows => rows
  | refused _ | aborted => []

def error? : Reading → Option (List Char)
  | announced _ => none
  | refused e => some e.text
  | aborted => some "parser aborted".toList

end Reading

/-- A source with the way to its documents and the way to read them. -/
structure Feed where
  source : Source
  /-- Fetches the document of the moment, if there is one, and may store it. -/
  fetch : Client → Moment → Archive →
    StateM World (Except SourceError (Option Document) × Archive)
  read : Document → Reading

namespace Feed

/-- The bulletins of the board. `extract` finds the text of a file. -/
def board (extract : Bytes → Option (List Char)) (settings : Settings) : Feed where
  source := .primaryBoard
  fetch client now archive := do
    let site := Bulletin.Site.of Bulletin.Site.standard.base settings.boardUrl
    match ← Bulletin.fetch site client now archive with
    | (.ok d, archive) => pure (.ok (some d), archive)
    | (.error e, archive) => pure (.error e, archive)
  read d := .of (Bulletin.read extract d)

/-- The tables of the information system, whose list page somebody else renders. -/
def table (rendering : Schedule.Rendering) : Feed where
  source := .secondarySystem
  fetch client now archive := do
    let document ← Schedule.fetch Schedule.Site.standard client rendering now
    pure (document, archive)
  read d := .of (Schedule.read d)

/-- The feeds of a run, the more trusted one first. -/
def standard (extract : Bytes → Option (List Char)) (settings : Settings) : List Feed :=
  [board extract settings, table .absent]

end Feed

structure Contribution where
  report : SourceReport
  rows : List Announcement

namespace Contribution

def none (source : Source) (error : Option (List Char)) : Contribution :=
  ⟨{ source, error }, []⟩

def ofReading (source : Source) (d : Document) (reading : Reading) : Contribution :=
  ⟨{ source
     rows := reading.rows.length
     address := some d.address
     title := some d.title
     error := reading.error? }, reading.rows⟩

end Contribution

namespace Feed

/-- Fetches and reads the document of a feed. Unless bulletins are kept, a file that was stored for
it is removed again, whatever reading it came to. -/
def collect (feed : Feed) (keeps : Bool) (client : Client) (now : Moment) (archive : Archive) :
    StateM World (Contribution × Archive) := do
  match ← feed.fetch client now archive with
  | (.error e, archive) => pure (.none feed.source (some e.text), archive)
  | (.ok none, archive) => pure (.none feed.source none, archive)
  | (.ok (some d), archive) =>
    let contribution := Contribution.ofReading feed.source d (feed.read d)
    match d.artifact with
    | some artifact =>
      pure (contribution, if keeps then archive else archive.discard artifact.path)
    | none => pure (contribution, archive)

/-- Collects from several feeds, in order. -/
def collectAll (keeps : Bool) (client : Client) (now : Moment) :
    List Feed → Archive → StateM World (List Contribution × Archive)
  | [], archive => pure ([], archive)
  | feed :: feeds, archive => do
    let (contribution, archive) ← feed.collect keeps client now archive
    let (rest, archive) ← collectAll keeps client now feeds archive
    pure (contribution :: rest, archive)

end Feed

end RouteAlerts
