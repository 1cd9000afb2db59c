import RouteAlerts.Announcement.Basic
import RouteAlerts.Archive.Store
import RouteAlerts.Web.Exchange

/-!
Documents: what a source published for a day, as it is handed from the one who fetched it to the one
who reads it, and why either of them may fail.
-/

namespace RouteAlerts

inductive Content where
  | pdf (bytes : Bytes)
  | text (s : List Char)
  | page (markup : List Char)

structure Document where
  source : Source
  /-- The day that the document is about. -/
  date : Date
  title : List Char
  address : List Char
  content : Content
  artifact : Option Artifact := none

inductive SourceError where
  /-- The board has no post for the day. -/
  | noPost (date : Date)
  /-- Nothing that could be downloaded from a page was a bulletin. -/
  | noAttachment (view : List Char)
  /-- There is nothing that could render a page. -/
  | noRenderer (reason : List Char)
  | fetch (e : Web.FetchError)
  /-- The document is of a kind that is not read. -/
  | wrongKind (expected : String)
  /-- The document has no text that could be extracted. -/
  | noText
  /-- A downloaded file is not coded as it says. -/
  | badCoding
  /-- The document could not be stored. -/
  | archive (e : ArchiveError)
  /-- Any other reason, in words. -/
  | other (reason : List Char)

namespace SourceError

/-- The wording of the error, where it is this library's own. -/
def message? : SourceError → Option String
  | noPost date => some (String.ofList ("no bulletin post for ".toList ++ date.text))
  | noAttachment view =>
    some (String.ofList ("no downloadable PDF attachment on ".toList ++ view))
  | noRenderer reason => some (String.ofList ("list renderer unavailable: ".toList ++ reason))
  | fetch (.status code address) => some (Web.FetchError.statusMessage code address)
  | fetch .closed => some "http client shut down"
  | fetch _ => none
  | wrongKind expected => some ("parse error: " ++ expected)
  | noText | badCoding | archive _ => none
  | other reason => some (String.ofList reason)

def text (e : SourceError) : List Char :=
  match e.message? with
  | some message => message.toList
  | none =>
    match e with
    | noText => "parse error: the file holds no text".toList
    | badCoding => "parse error: the file is not coded as it says".toList
    | archive _ => "the document could not be stored".toList
    | _ => "the request failed".toList

end SourceError

end RouteAlerts
