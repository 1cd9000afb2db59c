import RouteAlerts.Html.Node
import RouteAlerts.Text.Split

/-!
The text of an element with its lines: blocks and explicit breaks end a line, everything else runs
on.
-/

namespace RouteAlerts.Schedule

open Text Html

/-- A part of a layout. -/
inductive Piece where
  | words (s : List Char)
  | lineEnd
  deriving DecidableEq, Repr

namespace Piece

def chars : Piece → List Char
  | words s => s
  | lineEnd => ['\n']

/-- Ends the line that was started, if one was. The parts stand in reverse order. -/
def endLine : List Piece → List Piece
  | [] => []
  | lineEnd :: rest => lineEnd :: rest
  | rest => lineEnd :: rest

def startsLine : List String := ["p", "div", "li", "tr"]

def endsLine : List String := ["p", "div", "li", "tr", "td", "th"]

/-- What an element does to a layout before its content. -/
def enter (name : String) (done : List Piece) : List Piece :=
  if name == "br" then lineEnd :: done
  else if startsLine.contains name then endLine done
  else done

/-- What an element does to a layout behind its content. -/
def leave (name : String) (done : List Piece) : List Piece :=
  if endsLine.contains name then endLine done else done

mutual

/-- Adds a node to a layout whose parts stand in reverse order. -/
def addNode (done : List Piece) : Node → List Piece
  | .text s => if (trim s).isEmpty then done else words (trim s) :: done
  | .comment _ => done
  | .element name _ children => leave name (addNodes (enter name done) children)

/-- Adds nodes to a layout whose parts stand in reverse order. -/
def addNodes (done : List Piece) : List Node → List Piece
  | [] => done
  | n :: ns => addNodes (addNode done n) ns

end

def ofNode (n : Node) : List Piece := (addNode [] n).reverse

end Piece

/-- A line break and the blank lines behind it, up to the last of their line breaks. -/
def blankLines? : Reader Unit := fun s =>
  match s with
  | '\n' :: rest =>
    let run := rest.takeWhile isBlank
    match splitLast (· == '\n') run with
    | some (before, _) => some ((), rest.drop (before.length + 1))
    | none => none
  | _ => none

def inlineSpace? : Reader Unit := fun s =>
  let isSpace (c : Char) : Bool := c == ' ' || c == '\t'
  if (s.takeWhile isSpace).isEmpty then none else some ((), s.dropWhile isSpace)

/-- The text of a node with its lines: no blank lines, no runs of spaces, nothing around it. -/
def lines (n : Node) : List Char :=
  let joined := (Piece.ofNode n).flatMap Piece.chars
  let joined := substitute blankLines? (fun _ => ['\n']) joined
  trim (substitute inlineSpace? (fun _ => [' ']) joined)

end RouteAlerts.Schedule
