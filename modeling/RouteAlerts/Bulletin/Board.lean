import RouteAlerts.Calendar.Date
import RouteAlerts.Html.Document
import RouteAlerts.Html.Query

/-!
The notice board on which the bulletins are posted: the posts of its list page, and which of them is
about a day.
-/

namespace RouteAlerts.Bulletin

open Text Html

structure Post where
  boardType : List Char
  boardId : List Char
  number : List Char
  title : List Char
  deriving DecidableEq, Repr

/-- A text between two single quotes, not empty. -/
def quotedArgument? : Reader (List Char) := fun s =>
  match s with
  | '\x27' :: s =>
    let argument := s.takeWhile (· != '\x27')
    match s.dropWhile (· != '\x27') with
    | _ :: rest => if argument.isEmpty then none else some (argument, rest)
    | [] => none
  | _ => none

def comma? (s : List Char) : Option (List Char) :=
  match trimStart s with
  | ',' :: rest => some (trimStart rest)
  | _ => none

def quotedNumber? : Reader (List Char) := fun s =>
  match quotedArgument? s with
  | some (digits, rest) => if digits.all isDigit then some (digits, rest) else none
  | none => none

/-- The call with which a list page opens a post: the type and the number of the board, and the
number of the post. -/
def viewCall? : Reader (List Char × List Char × List Char) := fun s => do
  let ((), s) ← literal "goBoardView(".toList s
  let (boardType, s) ← quotedArgument? s
  let (boardId, s) ← quotedArgument? (← comma? s)
  let (number, s) ← quotedNumber? (← comma? s)
  match s with
  | ')' :: rest => some ((boardType, boardId, number), rest)
  | _ => none

namespace Post

def links : List Test := [.name "a", .startsWith "href" "javascript:goBoardView"]

def tableBody : Selector :=
  .childOf (.childOf (.childOf (.childOf (.only [.id "subContents"]) [.name "div"])
    [.name "div", .hasClass "inContent"]) [.name "table"]) [.name "tbody"]

def ofLink? (link : Node) : Option Post := do
  let href ← link.attribute? "href"
  let (_, (boardType, boardId, number), _) ← firstMatch viewCall? href
  some ⟨boardType, boardId, number, squeeze link.content⟩

/-- The posts of a list page: those in its table or, when no link is there, those anywhere. -/
def list (markup : List Char) : List Post :=
  let all := elements (parse markup)
  let inTable := (Selector.within tableBody links).among all
  let found := if inTable.isEmpty then (Selector.only links).among all else inTable
  found.filterMap fun l => ofLink? l.node

/-- The addresses under which a post may be found, the likelier first. -/
def views (p : Post) (base : List Char) : List (List Char) :=
  ["View&boardNo=", "dmlType=View&boardNo="].map fun query =>
    base ++ "/user/nd54882.do?".toList ++ query.toList ++ p.number

/-- The date in the title: the first six digits in a row are the year of the century, the month and
the day. -/
def date? (p : Post) : Option Date := do
  let (_, digits, _) ← firstMatch (digits? 6) p.title
  let year ← readNat? (numbersOf 31) (digits.take 2)
  let month ← readNat? (numbersOf 32) ((digits.drop 2).take 2)
  let day ← readNat? (numbersOf 32) (digits.drop 4)
  Date.of? (2000 + year) month day

/-- The words with which the title of a bulletin for a day starts. -/
def titleFor (date : Date) : List Char := "오늘의 집회 ".toList ++ date.stamp

/-- The days of the week as titles name them. -/
def weekdayNames : List Char := "월화수목금토일".toList

/-- The post for a day: its title has the words for the day in it, with the day of the week behind
them or without. -/
def find? (posts : List Post) (date : Date) : Option Post :=
  let words := titleFor date
  let withWeekday := words ++ ' ' :: (weekdayNames[date.weekday]?).toList
  posts.find? fun p => contains p.title withWeekday || contains p.title words

end Post

end RouteAlerts.Bulletin
