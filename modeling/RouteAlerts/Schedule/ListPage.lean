import RouteAlerts.Calendar.Date
import RouteAlerts.Html.Document
import RouteAlerts.Html.Query

/-!
The list page of the assembly table: its posts with their identifiers and dates, and which of them
is the latest about assemblies.
-/

namespace RouteAlerts.Schedule

open Text Html

/-! ### Dates -/

/-- A year, a month and a day in digits. -/
abbrev DateDigits : Type := List Char × List Char × List Char

def dateSign? (s : List Char) : Option (List Char) :=
  match s with
  | c :: rest => if c == '-' || c == '.' || c == '/' then some rest else none
  | [] => none

def signedDate? : Reader DateDigits := fun s => do
  let (year, s) ← digits? 4 s
  let (month, s) ← oneOrTwoDigits? (← dateSign? s)
  let (day, s) ← oneOrTwoDigits? (← dateSign? s)
  some ((year, month, day), s)

def unit? (unit : Char) (s : List Char) : Option (List Char) :=
  match trimStart s with
  | c :: rest => if c == unit then some rest else none
  | [] => none

def spelledDate? : Reader DateDigits := fun s => do
  let (year, s) ← digits? 4 s
  let s ← unit? '년' s
  let (month, s) ← oneOrTwoDigits? (trimStart s)
  let s ← unit? '월' s
  let (day, s) ← oneOrTwoDigits? (trimStart s)
  let s ← unit? '일' s
  some ((year, month, day), s)

/-- The date in a text: the first one with signs or, when there is none, the first one with units.
-/
def date? (s : List Char) : Option Date := do
  let s := squeeze s
  let (_, (year, month, day), _) ←
    (firstMatch signedDate? s).orElse fun _ => firstMatch spelledDate? s
  Date.of? (← readNat? (numbersOf 31) year) (← readNat? (numbersOf 32) month) (← readNat? (numbersOf 32) day)

/-! ### Posts -/

structure Post where
  id : Nat
  title : List Char
  date : Option Date
  deriving DecidableEq

namespace Post

def idInAddress? : Reader (List Char) := fun s => do
  let ((), s) ← literal "mgrSeq=".toList s
  digitRun? s

def longRun? : Reader (List Char) := fun s =>
  (digitRun? s).filter fun (run, _) => run.length ≥ 4

/-- The identifier of a row: its key, the one in an address inside the row, or the one in the call
that opens it. -/
def idText? (row : Node) : Option (List Char) :=
  let key := (row.attribute? "key").filter (!isAllBlank ·)
  let inAddress := (firstMatch idInAddress? (row.markup "")).map fun (_, run, _) => run
  let inCall := (row.attribute? "onclick").bind fun call =>
    (firstMatch longRun? call).map fun (_, run, _) => run
  (key.orElse fun _ => inAddress).orElse fun _ => inCall

def cellText (cell : Node) : List Char := squeeze (joinWith [' '] cell.texts)

def ofRow? (row : Located) : Option Post := do
  let cells := ((Selector.only [.name "td"]).among row.descendants).map Located.node
  match cells with
  | _ :: title :: date :: _ =>
    let id ← readNat? (numbersOf 64) (trim (← idText? row.node))
    some ⟨id, cellText title, date? (cellText date)⟩
  | _ => none

/-- The posts without those whose identifier stood there before. -/
def firstOfEach (posts : List Post) : List Post :=
  posts.foldl (fun kept p => if kept.any (·.id == p.id) then kept else kept ++ [p]) []

def rowSelector : Selector := .within (.only [.hasClass "assem_content"]) [.name "tr"]

def list (markup : List Char) : List Post :=
  firstOfEach ((rowSelector.among (elements (parse markup))).filterMap ofRow?)

def isAssemblyTitle (title : List Char) : Bool :=
  let mentions (word : String) : Bool := contains (squeeze title) word.toList
  mentions "집회" || (mentions "행사" && (mentions "안내" || mentions "정보"))

/-- The post about assemblies with the highest identifier, the last one of several. -/
def latest? (posts : List Post) : Option Post :=
  posts.foldl (fun best p =>
    if !isAssemblyTitle p.title then best
    else match best with
      | some b => if b.id ≤ p.id then some p else best
      | none => some p) none

end Post

end RouteAlerts.Schedule
