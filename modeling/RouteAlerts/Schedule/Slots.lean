import RouteAlerts.Html.Document
import RouteAlerts.Html.Query
import RouteAlerts.Schedule.Layout
import RouteAlerts.Schedule.Places
import RouteAlerts.Schedule.TimeRange

/-!
The slots of a detail page: the rows of its table, grouped by their times. The head of the table
mentions which column holds what; without a head the columns are taken in their usual order.
-/

namespace RouteAlerts.Schedule

open Text Html

/-! ### Columns -/

/-- The columns that a head names. -/
structure Head where
  time : Option Nat := none
  place : Option Nat := none
  route : Option Nat := none
  deriving DecidableEq, Repr

namespace Head

def timeWords : List String := ["시간", "집회시간", "집결시간"]

def placeWords : List String := ["장소", "집회장소", "집결장소", "집결지"]

def routeWords : List String := ["행진", "경로", "이동"]

def mentions (words : List String) (label : List Char) : Bool :=
  words.any fun w => contains label w.toList

/-- The last of the columns whose label holds one of several words. -/
def lastColumn (words : List String) (labels : List (List Char)) : Option Nat :=
  ((labels.zipIdx.filter fun (label, _) => mentions words label).getLast?).map Prod.snd

def ofLabels (labels : List (List Char)) : Head :=
  ⟨lastColumn timeWords labels, lastColumn placeWords labels, lastColumn routeWords labels⟩

/-- Whether no column is named: the row is no head. -/
def isEmpty (h : Head) : Bool := h.time.isNone && h.place.isNone && h.route.isNone

end Head

structure Columns where
  time : Nat
  place : Nat
  route : Option Nat
  deriving DecidableEq, Repr

/-- The columns of a table with a head. Columns that are not named are the first two of a narrow
table, the second and the third of a wide one. -/
def Head.columns (h : Head) (width : Nat) : Columns :=
  let narrow := width ≤ 2
  ⟨h.time.getD (if narrow then 0 else 1), h.place.getD (if narrow then 1 else 2), h.route⟩

/-! ### Rows -/

def marchLabel? : Reader Unit := fun s =>
  match s with
  | '※' :: s => do
    let ((), s) ← literal "행진".toList (trimStart s)
    match trimStart s with
    | ':' :: s | '：' :: s => some ((), trimStart s)
    | s => some ((), s)
  | _ => none

def cellPlaces (cell : Node) : List (List Char) :=
  places (substitute marchLabel? (fun _ => [' ']) (lines cell))

/-- The times of a row: those in its time cell or, failing that, those anywhere in it. -/
def rowTimes? (columns : Columns) (row : Node) (cells : List Node) : Option TimeRange :=
  let inCell := cells[columns.time]?.bind fun cell => TimeRange.read? (lines cell)
  inCell.orElse fun _ => TimeRange.read? (lines row)

/-- The places of a row: those in its place cell and on the way of its march or, when there are
none, those anywhere in it. -/
def rowPlaces (columns : Columns) (row : Node) (cells : List Node) : List (List Char) :=
  let inPlace := match cells[columns.place]? with
    | some cell => cellPlaces cell
    | none => []
  let onRoute := match columns.route.bind fun i => cells[i]? with
    | some cell => places (lines cell)
    | none => []
  let named := inPlace ++ onRoute
  if named.isEmpty then places (lines row) else named

/-- The times and the places of a row, if it has both. -/
def rowSlot? (columns : Columns) (row : Node) (cells : List Node) :
    Option (TimeRange × List (List Char)) :=
  if cells.isEmpty then none
  else
    match rowTimes? columns row cells with
    | none => none
    | some times =>
      let named := rowPlaces columns row cells
      if named.isEmpty then none else some (times, named)

/-! ### Slots -/

structure Slot where
  times : TimeRange
  places : List (List Char)
  deriving DecidableEq, Repr

namespace Slot

/-- Adds a row to the slots: to the one with its times, if there is one. -/
def add (slots : List Slot) (times : TimeRange) (named : List (List Char)) : List Slot :=
  match slots with
  | [] => [⟨times, distinct named⟩]
  | slot :: rest =>
    if slot.times == times then ⟨times, distinct (slot.places ++ named)⟩ :: rest
    else slot :: add rest times named

def cells (row : Located) : List Node :=
  (row.descendants.filter fun l => ["td", "th"].contains l.node.name).map Located.node

def ofRows (rows : List (Node × List Node)) : List Slot :=
  match rows with
  | [] => []
  | first :: rest =>
    let head := Head.ofLabels (first.2.map fun cell => strip cell.content)
    let columns := head.columns first.2.length
    let data := if head.isEmpty then first :: rest else rest
    (data.filterMap fun (row, cells) => rowSlot? columns row cells).foldl
      (fun slots (times, named) => add slots times named) []

def rowsOf (table : Located) : List (Node × List Node) :=
  ((Selector.only [.name "tr"]).among table.descendants).map fun row => (row.node, cells row)

/-! ### The table of a page -/

def noticeContents : List Test := [.name "li", .hasClass "notice_contents"]

def noticeList : List Test :=
  [.name "ul", .hasClass "notice_datail", .hasClass "flex", .hasClass "flex_wrap"]

/-- Where the table is looked for, the most exact place first. -/
def tableSelectors : List Selector :=
  let inNotice (notice : Selector) : Selector :=
    .childOf (.childOf notice [.name "div"]) [.name "table"]
  [inNotice (.childOf (.childOf (.childOf (.childOf (.childOf
      (.only [.name "div", .hasClass "police_main_wrap", .hasClass "detail", .hasClass "flex",
        .hasClass "flex_column"])
      [.name "section"]) [.name "div"]) [.name "div"]) noticeList) noticeContents),
   inNotice (.within (.only noticeList) noticeContents),
   inNotice (.only noticeContents),
   .within (.only [.name "div", .hasClass "detail_contents"]) [.name "table"]]

/-- Whether an element speaks of times and of places. -/
def speaksOfSlots (n : Node) : Bool :=
  let s := strip n.content
  contains s "시간".toList && contains s "장소".toList

def table? (page : List Node) : Option Located :=
  let all := elements page
  let tables := (Selector.only [.name "table"]).among all
  ((tableSelectors.findSome? fun s => (s.among all).head?).orElse fun _ =>
    tables.find? fun l => speaksOfSlots l.node).orElse fun _ =>
      ((Selector.within (.only noticeContents) [.name "table"]).among all).head?

def list (markup : List Char) : List Slot :=
  match table? (parse markup) with
  | some table => ofRows (rowsOf table)
  | none => []

end Slot

end RouteAlerts.Schedule
