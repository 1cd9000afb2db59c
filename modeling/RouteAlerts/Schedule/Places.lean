import RouteAlerts.Text.Digit
import RouteAlerts.Text.Hangul

/-!
The places of a row of the assembly table: cut at the signs between stations and at line breaks,
with fragments that are no places left out.
-/

namespace RouteAlerts.Schedule

open Text

/-- The signs between places. -/
def isSeparator (c : Char) : Bool :=
  ['→', '↔', '⟷', '↦', '↪', '➝', '➔', '⇒', '~', '〜', '∼', '–', '—', '/', ',', '▶', '⇄'].contains c

def laneCount? : Reader Unit := fun s => do
  let (_, s) ← digitRun? s
  let s := match trimStart s with
    | '개' :: rest => rest
    | rest => rest
  literal "차로".toList s

/-- Words that are left over when a place is cut. -/
def leftovers : List (List Char) := [['출'], ['구'], ['로'], ['길']]

/-- Whether a fragment is a place: more than one character or a letter, no leftover, and nothing
about lanes. -/
def isPlace (s : List Char) : Bool :=
  (s.length > 1 || hasLetter s) && !leftovers.contains s && (firstMatch laneCount? s).isNone

/-- A list without what stood in it before. -/
def distinct {α : Type} [BEq α] (xs : List α) : List α :=
  xs.foldl (fun kept x => if kept.contains x then kept else kept ++ [x]) []

/-- The text of a cell on one line, line breaks counting as signs. -/
def onOneLine (text : List Char) : List Char :=
  squeeze (text.flatMap fun c => if c == '\n' then [' ', '/', ' '] else [c])

def places (text : List Char) : List (List Char) :=
  distinct (((splitWhere isSeparator (onOneLine text)).map trim).filter isPlace)

end RouteAlerts.Schedule
