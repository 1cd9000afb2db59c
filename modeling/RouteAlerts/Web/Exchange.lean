import RouteAlerts.Bytes.Utf8
import RouteAlerts.Text.Blank
import RouteAlerts.Web.Url.Reader

/-!
Requests and responses. The web is known by what it answers: one answer after the other for every
target, the last of which repeats, and a record of what it was asked.
-/

namespace RouteAlerts.Web

open Text

/-- The fields of a message head, names in lower-case letters. -/
abbrev Fields : Type := List (String × List Char)

structure Request where
  /-- The address as it was given; it may be none. -/
  address : List Char
  /-- Fields added to the query of the address. -/
  query : List (List Char × List Char) := []
  fields : Fields := []

structure Reply where
  status : Nat := 200
  contentType : Option (List Char) := none
  contentDisposition : Option (List Char) := none
  body : Bytes := []

/-- What becomes of a request that reached its server. -/
inductive Answer where
  | reply (r : Reply)
  /-- The connection is closed without an answer. -/
  | dropped

/-- A request as its server saw it. -/
structure Received where
  target : List Char
  fields : Fields

structure World where
  /-- Whether servers can be reached at all. -/
  reachable : Bool := true
  answers : List (List Char × List Answer) := []
  received : List Received := []

structure Response where
  status : Nat
  address : List Char
  contentType : Option (List Char)
  contentDisposition : Option (List Char)
  body : Bytes

namespace Response

def text (r : Response) : List Char := Utf8.decode r.body

def typeMentions (r : Response) (word : String) : Bool :=
  match r.contentType with
  | some s => contains (s.map Char.toLower) word.toList
  | none => false

def isPage (r : Response) : Bool := r.typeMentions "html"

end Response

/-! ### Failures -/

inductive FetchError where
  /-- What was to be sent is no request: its address is none of the web, or a field holds a control
  character. -/
  | notSendable
  /-- No connection, or one that was closed without an answer. -/
  | noAnswer
  /-- A status other than success. -/
  | status (code : Nat) (address : List Char)
  /-- The client takes no more requests. -/
  | closed
  deriving DecidableEq, Repr

namespace FetchError

/-- Whether a status may be another one next time: a server's failure, or too many requests. -/
def passingStatus (code : Nat) : Bool := (500 ≤ code && code ≤ 599) || code == 429

def isStatus (code : Nat) : Bool := 100 ≤ code && code ≤ 999

def isPassing : FetchError → Bool
  | notSendable | closed => false
  | noAnswer => true
  | status code _ => isStatus code && passingStatus code

/-- What is said about a status. -/
def statusMessage (code : Nat) (address : List Char) : String :=
  String.ofList ("http status ".toList ++ natDigits code ++ " for ".toList ++ address)

end FetchError

/-! ### One exchange -/

/-- Whether a text may stand in a message head. -/
def isFieldValue (s : List Char) : Bool :=
  s.all fun c => c == '\t' || (c.toNat ≥ 0x20 && c.toNat != 0x7F)

/-- A field of an answer as the client sees it: blanks off both ends, and nothing at all when it has
a character outside of visible ASCII. -/
def seenField (s : List Char) : Option (List Char) :=
  let isBlank (c : Char) : Bool := c == ' ' || c == '\t'
  if s.all fun c => c == '\t' || (0x20 ≤ c.toNat && c.toNat < 0x7F) then
    some (trimWhere isBlank s)
  else none

def Request.url? (r : Request) : Option Url := do
  let url ← Url.parse? r.address
  if url.scheme == "http".toList || url.scheme == "https".toList then
    some (r.query.foldl (fun u (key, value) => u.withField key value) url)
  else none

namespace World

/-- The answers for a target; what is not listed does not exist. -/
def answersFor (w : World) (target : List Char) : List Answer :=
  match w.answers.find? fun (t, _) => t == target with
  | some (_, answers) => answers
  | none => [.reply { status := 404 }]

/-- The answers of a target when one of them has been used. -/
def used : List Answer → List Answer
  | _ :: a :: rest => a :: rest
  | answers => answers

/-- The web after it was asked for a target. -/
def ask (w : World) (target : List Char) (fields : Fields) : Option Answer × World :=
  (match w.answersFor target with
    | a :: _ => some a
    | [] => none,
   { w with
      answers := w.answers.map fun (t, answers) => (t, if t == target then used answers else answers)
      received := w.received ++ [⟨target, fields⟩] })

end World

def exchange (r : Request) (w : World) : Except FetchError Response × World :=
  match r.url? with
  | none => (.error .notSendable, w)
  | some url =>
    if !r.fields.all fun (_, value) => isFieldValue value then (.error .notSendable, w)
    else if !w.reachable then (.error .noAnswer, w)
    else
      match w.ask url.target r.fields with
      | (some (.reply reply), w) =>
        let address := url.text
        if 200 ≤ reply.status && reply.status ≤ 299 then
          (.ok {
            status := reply.status
            address
            contentType := reply.contentType.bind seenField
            contentDisposition := reply.contentDisposition.bind seenField
            body := reply.body }, w)
        else (.error (.status reply.status address), w)
      | (_, w) => (.error .noAnswer, w)

end RouteAlerts.Web
