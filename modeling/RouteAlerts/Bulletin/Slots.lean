import RouteAlerts.Announcement.Basic
import RouteAlerts.Bulletin.Clock
import RouteAlerts.Bulletin.Headcount
import RouteAlerts.Text.Hangul

/-!
The text of a bulletin as announcements. Every time range opens a slot, which lasts up to the next
range; the slot's text holds the places, then the attendance figure, then a remark, and annotations
between angle brackets anywhere among the places.
-/

namespace RouteAlerts.Bulletin

open Text

/-! ### Times torn apart by line breaks -/

/-- An hour at the end of a line with its colon and minutes on the next. -/
def tornHour? : Reader (List Char × List Char) := fun s => do
  let (hour, s) ← oneOrTwoDigits? s
  match ← afterLineBreak? s with
  | ':' :: s =>
    let (minute, s) ← digits? 2 (s.dropWhile isBlank)
    some ((hour, minute), s)
  | _ => none

/-- Two clock times with the sign between them on a line of its own. -/
def tornRange? : Reader (PrintedClock × PrintedClock) := fun s => do
  let (start, s) ← PrintedClock.read? s
  match ← afterLineBreak? s with
  | '~' :: s =>
    let (finish, s) ← PrintedClock.read? (← afterLineBreak? s)
    some ((start, finish), s)
  | _ => none

/-- The text with torn hours and then torn ranges put together. -/
def joinTimes (s : List Char) : List Char :=
  let s := substitute tornHour? (fun (hour, minute) => hour ++ ':' :: minute) s
  substitute tornRange? (fun (start, finish) => start.raw ++ '~' :: finish.raw) s

/-! ### Slots -/

/-- A time range: two clock times with a tilde between them. -/
def slot? : Reader (PrintedClock × PrintedClock) := fun s => do
  let (start, s) ← PrintedClock.read? s
  match s.dropWhile isBlank with
  | '~' :: s =>
    let (finish, s) ← PrintedClock.read? (s.dropWhile isBlank)
    some ((start, finish), s)
  | _ => none

/-- The content of an annotation: what stands between angle brackets, at least one character. -/
def annotation? : Reader (List Char) := fun s =>
  match s with
  | '<' :: s =>
    let content := s.takeWhile (· != '>')
    match s.dropWhile (· != '>') with
    | '>' :: rest => if content.isEmpty then none else some (content, rest)
    | _ => none
  | _ => none

/-- The signs between the stations of a march. -/
def isGlyph (c : Char) : Bool := c == '→' || c == '↔' || c == '~'

/-- The places of a text: annotations taken out, cut at the march signs. -/
def placesOf (s : List Char) : List (List Char) :=
  let cleaned := squeeze (substitute annotation? (fun _ => [' ']) s)
  ((splitWhere isGlyph cleaned).map trim).filter (!·.isEmpty)

/-- The contents of the annotations of a text, a space between neighbours. -/
def annotationsOf (s : List Char) : List Char :=
  joinWith [' '] ((matchesOf annotation? s).map trim)

structure Detail where
  places : List (List Char)
  headcount : Option Nat
  /-- What follows the attendance figure, then the annotations, with torn words joined. -/
  remark : List Char
  deriving DecidableEq, Repr

/-- The parts of the text of a slot: places stand before the attendance figure, unless there are
none there. -/
def Detail.of (text : List Char) : Detail :=
  let text := trim text
  let (headcount, before, after) := match Headcount.find? text with
    | some h => (some h.value, h.before, h.after)
    | none => (none, text, [])
  let before := trim before
  let places := placesOf before
  let remark := joinWith [' ']
    ([trim after, trim (annotationsOf before)].filter (!·.isEmpty))
  ⟨if places.isEmpty then placesOf text else places, headcount, closeGaps (squeeze remark)⟩

/-- The announcement of a slot, unless it names no place. -/
def announce? (date : Date) (range : PrintedClock × PrintedClock) (text : List Char) :
    Option Announcement :=
  let detail := Detail.of text
  if detail.places.isEmpty then none
  else some {
    source := .primaryBoard
    date
    startTime := String.ofList (strip range.1.raw)
    endTime := String.ofList (strip range.2.raw)
    places := detail.places.map String.ofList
    headcount := detail.headcount
    remark := if detail.remark.isEmpty then none else some (String.ofList detail.remark)
    coordinates := none }

/-- The announcements of a bulletin, one for every slot that names a place. -/
def announcements (text : List Char) (date : Date) : List Announcement :=
  (cut slot? (joinTimes text)).2.filterMap fun (range, detail) => announce? date range detail

end RouteAlerts.Bulletin
