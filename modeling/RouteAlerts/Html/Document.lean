import RouteAlerts.Html.Rules.Foreign
import RouteAlerts.Html.Rules.Tail

/-!
Pages as trees: every text is a page. Tags that are left out are implied, and markup that is wrongly
nested is put right by the rules of the region it stands in.
-/

namespace RouteAlerts.Html

namespace Draft

def regionRules (d : Draft) (t : Token) : Outcome :=
  match d.region with
  | .initial => d.initialRules t
  | .beforeHtml => d.beforeHtmlRules t
  | .beforeHead => d.beforeHeadRules t
  | .inHead => d.headRules t
  | .afterHead => d.afterHeadRules t
  | .inBody => d.bodyRules t
  | .inText => d.textRules t
  | .inTable => d.tableRules t
  | .inTableText => d.tableTextRules t
  | .inCaption => d.captionRules t
  | .inColumnGroup => d.columnGroupRules t
  | .inTableBody => d.tableBodyRules t
  | .inRow => d.rowRules t
  | .inCell => d.cellRules t
  | .inSelect => d.selectRules t
  | .inSelectInTable => d.selectInTableRules t
  | .inTemplate => d.templateRules t
  | .afterBody => d.afterBodyRules t
  | .inFrameset => d.framesetRules t
  | .afterFrameset | .afterAfterFrameset => d.afterFramesetRules t
  | .afterAfterBody => d.afterAfterBodyRules t

/-- Deals with one token; `fuel` bounds how often it is looked at. -/
def look (d : Draft) (t : Token) : Nat → Draft
  | 0 => d
  | fuel + 1 =>
    let outcome :=
      if d.isForeign t then
        match d.foreignRules t with
        | .done d => d.done
        | .ordinary d => d.regionRules t
      else d.regionRules t
    match outcome.left with
    | none => outcome.draft
    | some t => outcome.draft.look t fuel

def dropBreak : Token → Token
  | .space ('\n' :: s) => .space s
  | t => t

def add (d : Draft) (t : Token) : Draft :=
  let t := if d.skipsBreak then dropBreak t else t
  let d := { d with skipsBreak := false }
  match t with
  | .space [] => d
  | t => d.look t (3 * d.nodes.size + 32)

/-- Adds all tokens of a text to a page; `fuel` bounds their number. -/
def addAll (d : Draft) (s : List Char) : Nat → Draft
  | 0 => d.add .finish
  | fuel + 1 =>
    if s.isEmpty then d.add .finish
    else
      let (tokens, rest) := Token.next d.markup d.inForeign s
      (tokens.foldl add { d with markup := .full }).addAll rest fuel

end Draft

/-- A text with every line break written as one line feed. -/
def normalBreaks : List Char → List Char
  | '\r' :: '\n' :: s => '\n' :: normalBreaks s
  | '\r' :: s => '\n' :: normalBreaks s
  | c :: s => c :: normalBreaks s
  | [] => []

def parse (s : List Char) : List Node :=
  let s := match s with
    | '\uFEFF' :: rest => rest
    | _ => s
  let s := normalBreaks s
  (Draft.addAll {} s (2 * s.length + 2)).page

end RouteAlerts.Html
