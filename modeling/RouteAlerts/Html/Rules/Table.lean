import RouteAlerts.Html.Rules.Body

/-!
The rules in tables. Rows and cells that are not written are implied; what does not belong into a
table goes before it.
-/

namespace RouteAlerts.Html.Draft

/-- Closes elements up to one that the next part of a table may stand in. -/
def clearTo (d : Draft) (names : List String) : Draft :=
  d.popTo (d.isNamed (names ++ ["template", "html"]))

def rowGroups : List String := ["tbody", "tfoot", "thead"]

/-- What starts a new part of a table around cells and rows. -/
def partStarts : List String := ["caption", "col", "colgroup"] ++ rowGroups

/-- Deals with a token as in the body, with nodes going before the table. -/
def foster (d : Draft) (t : Token) : Outcome :=
  let ⟨d, left⟩ := { d with fostering := true }.bodyRules t
  ⟨{ d with fostering := false }, left⟩

def tableOpening (d : Draft) (name : String) (attributes : Attributes) (t : Token) : Outcome :=
  let clear := d.clearTo ["table"]
  match name with
  | "caption" => { (clear.mark).insert name attributes with region := .inCaption }.done
  | "colgroup" => { clear.insert name attributes with region := .inColumnGroup }.done
  | "col" => (clear.insert "colgroup" []).again .inColumnGroup t
  | "tbody" | "tfoot" | "thead" => { clear.insert name attributes with region := .inTableBody }.done
  | "td" | "th" | "tr" => (clear.insert "tbody" []).again .inTableBody t
  | "table" =>
    if d.inTableScope ["table"] then ⟨(d.popNamed ["table"]).resetRegion, some t⟩ else d.done
  | "style" | "script" | "template" => d.headRules t
  | "input" =>
    if hasValue attributes "type" "hidden" then (d.insertVoid name attributes).done else d.foster t
  | "form" =>
    if d.isOpen ["template"] || d.form.isSome then d.done
    else
      let d := d.insert name attributes
      { d with form := some d.current }.pop.done
  | _ => d.foster t

def tableRules (d : Draft) (t : Token) : Outcome :=
  let betweenCells : Outcome :=
    if d.currentIs (["table", "template", "tr"] ++ rowGroups) then
      { d with stray := [], resume := d.region }.again .inTableText t
    else d.foster t
  match t with
  | .null | .space _ | .text _ => betweenCells
  | .comment s => (d.addComment s).done
  | .doctype .. => d.done
  | .opening name attributes _ => d.tableOpening name attributes t
  | .closing name =>
    match name with
    | "table" =>
      (if d.inTableScope ["table"] then (d.popNamed ["table"]).resetRegion else d).done
    | "template" => d.headRules t
    | _ => if (["body", "html"] ++ tableParts).contains name then d.done else d.foster t
  | .finish => d.bodyRules t

/-- The rules for text between cells: white space stays, other text goes before the table. -/
def tableTextRules (d : Draft) (t : Token) : Outcome :=
  match t with
  | .null => d.done
  | .space s | .text s => { d with stray := d.stray ++ s }.done
  | t =>
    let settled :=
      if d.stray.all Token.isSpace then d.addText d.stray
      else (Token.ofText d.stray).foldl (fun d t => (d.foster t).draft) d
    { settled with stray := [] }.again d.resume t

def closeCaption (d : Draft) : Draft :=
  { ((d.closeImplied []).popNamed ["caption"]).clearToMark with region := .inTable }

def captionRules (d : Draft) (t : Token) : Outcome :=
  let leave (left : Option Token) : Outcome :=
    if d.inTableScope ["caption"] then ⟨d.closeCaption, left⟩ else d.done
  match t with
  | .closing "caption" => leave none
  | .closing "table" => leave (some t)
  | .opening name _ _ => if tableParts.contains name then leave (some t) else d.bodyRules t
  | .closing name =>
    if (["body", "html"] ++ tableParts).contains name then d.done else d.bodyRules t
  | t => d.bodyRules t

def columnGroupRules (d : Draft) (t : Token) : Outcome :=
  let leave (left : Option Token) : Outcome :=
    if d.currentIs ["colgroup"] then ⟨{ d.pop with region := .inTable }, left⟩ else d.done
  match t with
  | .space s => (d.addText s).done
  | .comment s => (d.addComment s).done
  | .doctype .. => d.done
  | .opening "html" attributes _ => (d.moreRoot attributes).done
  | .opening "col" attributes _ => (d.insertVoid "col" attributes).done
  | .opening "template" _ _ | .closing "template" => d.headRules t
  | .closing "colgroup" => leave none
  | .closing "col" => d.done
  | .finish => d.bodyRules t
  | t => leave (some t)

def tableBodyRules (d : Draft) (t : Token) : Outcome :=
  let clear := d.clearTo rowGroups
  let leave (names : List String) (left : Option Token) : Outcome :=
    if d.inTableScope names then ⟨{ clear.pop with region := .inTable }, left⟩ else d.done
  match t with
  | .opening "tr" attributes _ => { clear.insert "tr" attributes with region := .inRow }.done
  | .opening "td" _ _ | .opening "th" _ _ => (clear.insert "tr" []).again .inRow t
  | .closing "table" => leave rowGroups (some t)
  | .opening name _ _ =>
    if partStarts.contains name then leave rowGroups (some t) else d.tableRules t
  | .closing name =>
    if rowGroups.contains name then leave [name] none
    else if (["body", "html"] ++ tableParts).contains name then d.done
    else d.tableRules t
  | t => d.tableRules t

def rowRules (d : Draft) (t : Token) : Outcome :=
  let clear := d.clearTo ["tr"]
  let leave (left : Option Token) : Outcome :=
    if d.inTableScope ["tr"] then ⟨{ clear.pop with region := .inTableBody }, left⟩ else d.done
  match t with
  | .opening name attributes _ =>
    if ["td", "th"].contains name then
      { clear.insert name attributes with region := .inCell }.mark.done
    else if (partStarts ++ ["tr"]).contains name then leave (some t)
    else d.tableRules t
  | .closing name =>
    if name == "tr" then leave none
    else if name == "table" then leave (some t)
    else if rowGroups.contains name then
      if d.inTableScope [name] then leave (some t) else d.done
    else if (["body", "html"] ++ tableParts).contains name then d.done
    else d.tableRules t
  | t => d.tableRules t

def closeCell (d : Draft) : Draft :=
  { ((d.closeImplied []).popNamed ["td", "th"]).clearToMark with region := .inRow }

def cellRules (d : Draft) (t : Token) : Outcome :=
  match t with
  | .opening name _ _ =>
    if tableParts.contains name then
      if d.inTableScope ["td", "th"] then ⟨d.closeCell, some t⟩ else d.done
    else d.bodyRules t
  | .closing name =>
    if ["td", "th"].contains name then
      if d.inTableScope [name] then
        { ((d.closeImplied []).popNamed [name]).clearToMark with region := .inRow }.done
      else d.done
    else if (["table", "tr"] ++ rowGroups).contains name then
      if d.inTableScope [name] then ⟨d.closeCell, some t⟩ else d.done
    else if (["body", "html"] ++ tableParts).contains name then d.done
    else d.bodyRules t
  | t => d.bodyRules t

end RouteAlerts.Html.Draft
