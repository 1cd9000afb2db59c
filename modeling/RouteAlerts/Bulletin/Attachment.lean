import RouteAlerts.Archive.FileName
import RouteAlerts.Bulletin.Board
import RouteAlerts.Bytes.Base64
import RouteAlerts.Json.Decoder
import RouteAlerts.Json.Reader
import RouteAlerts.Web.Exchange

/-!
The files attached to a post: the links of its page, what a download consists of, and the name under
which a bulletin is kept.
-/

namespace RouteAlerts.Bulletin

open Text Html

structure Attachment where
  address : List Char
  number : List Char
  label : List Char
  deriving DecidableEq, Repr

/-- The call with which a page downloads a file: its address and its number. -/
def downloadCall? : Reader (List Char × List Char) := fun s => do
  let ((), s) ← literal "attachfileDownload(".toList s
  let (address, s) ← quotedArgument? s
  let (number, s) ← quotedNumber? (← comma? s)
  match s with
  | ')' :: rest => some ((address, number), rest)
  | _ => none

namespace Attachment

def ofLink? (base : Web.Url) (link : Node) : Option Attachment := do
  let call ← link.attribute? "onclick"
  let (_, (address, number), _) ← firstMatch downloadCall? call
  let url ← base.join? address
  some ⟨url.text, number, squeeze link.content⟩

/-- Whether the label of a link mentions a bulletin file. -/
def saysPdf (a : Attachment) : Bool := contains (a.label.map Char.toLower) "pdf".toList

/-- The files that can be downloaded from a page: those whose label mentions the format of bulletins
or, when there are none, all. -/
def list (markup base : List Char) : List Attachment :=
  match Web.Url.parse? base with
  | none => []
  | some base =>
    let links := (Selector.only [.name "a", .hasAttribute "onclick"]).among (elements (parse markup))
    let all := links.filterMap fun l => ofLink? base l.node
    if all.any saysPdf then all.filter saysPdf else all

/-- The request for a file. The board refuses one that does not come from the page of the post. -/
def request (a : Attachment) (view : List Char) : Web.Request where
  address := a.address
  query := [("attachNo".toList, a.number)]
  fields := [("referer", view)]

end Attachment

/-! ### What was downloaded -/

inductive Payload where
  /-- The file itself. -/
  | binary (bytes : Bytes)
  /-- The file in Base64, from a JSON envelope. -/
  | envelope (coded : List Char)
  deriving DecidableEq, Repr

namespace Payload

/-- The first file in an envelope. -/
def inEnvelope? (body : Bytes) : Option (List Char) := do
  let row : Json.Decoder (Option String) := fun v => do
    match ← Json.record ["apndFile"] v with
    | [file] => file.nullable Json.text
    | _ => none
  let value ← Json.readBytes body
  match ← Json.record ["rows"] value with
  | [rows] =>
    let files ← rows.withDefault (Json.list row) []
    (files.findSome? id).map String.toList
  | _ => none

/-- White space in front of a document. -/
def isSpace (b : UInt8) : Bool := b == 0x20 || b == 0x09 || b == 0x0A || b == 0x0C || b == 0x0D

/-- What a body of a declared type consists of. An envelope is looked for when the type mentions it
or the body starts like one. -/
def of (contentType : Option (List Char)) (body : Bytes) : Payload :=
  let declared := match contentType with
    | some s => contains (s.map Char.toLower) "json".toList
    | none => false
  let looks := (body.dropWhile isSpace).head? == some 0x7B
  if declared || looks then
    match inEnvelope? body with
    | some coded => .envelope coded
    | none => .binary body
  else .binary body

/-- The file, if its coding can be read; blanks in it mean nothing. -/
def bytes? : Payload → Option Bytes
  | binary bytes => some bytes
  | envelope coded => Base64.decode (strip coded)

end Payload

/-- Whether a file is a bulletin: it starts like one, or its type says so. -/
def isPdf (response : Web.Response) (bytes : Bytes) : Bool :=
  (Utf8.encode "%PDF-".toList).isPrefixOf bytes || response.typeMentions "pdf"

/-! ### Names -/

def fileNameParameter? : Reader (List Char) := fun s => do
  let ((), s) ← literal "filename".toList s
  let s := match s with
    | '*' :: rest => rest
    | _ => s
  match s with
  | '=' :: rest =>
    let value := rest.takeWhile (· != ';')
    if value.isEmpty then none else some (value, rest.dropWhile (· != ';'))
  | _ => none

def behindQuotes? (s : List Char) : Option (List Char) :=
  (firstMatch (literal ['\x27', '\x27']) s).map fun (_, _, rest) => rest

/-- The file name that a message head gives, percent-coded bytes read as what they stand for. -/
def fileName? (disposition : List Char) : Option (List Char) := do
  let (_, value, _) ← firstMatch fileNameParameter? disposition
  let value := trimWhere (fun c => c == '"' || c == '\x27') (trim value)
  let coded := if "UTF-8".toList.isPrefixOf (value.map Char.toUpper) then behindQuotes? value
    else none
  match coded with
  | some coded => some (Utf8.decode (Percent.decode (Utf8.encode coded)))
  | none => if value.isEmpty then none else some value

/-- The name under which a downloaded bulletin is kept: the one in the message head, the label of
the link, or the number of the file. -/
def Attachment.fileName (a : Attachment) (disposition : Option (List Char)) : List Char :=
  let given := disposition.bind fileName?
  FileName.asPdf (given.getD (if a.label.isEmpty then a.number ++ ".pdf".toList else a.label))

end RouteAlerts.Bulletin
