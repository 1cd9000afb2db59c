import RouteAlerts.Html.Rules.Table

/-!
The rules in selections, templates and framesets, and behind the end of the body.
-/

namespace RouteAlerts.Html.Draft

def closeSelect (d : Draft) : Draft := (d.popNamed ["select"]).resetRegion

/-- Closes the innermost element if it has this name. -/
def popIf (d : Draft) (name : String) : Draft := if d.currentIs [name] then d.pop else d

def selectRules (d : Draft) (t : Token) : Outcome :=
  match t with
  | .null | .doctype .. => d.done
  | .space s | .text s => (d.addText s).done
  | .comment s => (d.addComment s).done
  | .opening name attributes _ =>
    match name with
    | "html" => (d.moreRoot attributes).done
    | "option" => ((d.popIf "option").insert name attributes).done
    | "optgroup" => (((d.popIf "option").popIf "optgroup").insert name attributes).done
    | "hr" => (((d.popIf "option").popIf "optgroup").insertVoid name attributes).done
    | "select" => (if d.inSelectScope ["select"] then d.closeSelect else d).done
    | "input" | "keygen" | "textarea" =>
      if d.inSelectScope ["select"] then ⟨d.closeSelect, some t⟩ else d.done
    | "script" | "template" => d.headRules t
    | _ => d.done
  | .closing name =>
    match name with
    | "optgroup" =>
      let d := match d.opened with
        | a :: b :: _ => if d.isNamed ["option"] a && d.isNamed ["optgroup"] b then d.pop else d
        | _ => d
      (d.popIf "optgroup").done
    | "option" => (d.popIf "option").done
    | "select" => (if d.inSelectScope ["select"] then d.closeSelect else d).done
    | "template" => d.headRules t
    | _ => d.done
  | .finish => d.bodyRules t

/-- The parts of a table that end a selection. -/
def endsSelect : List String := ["caption", "table", "tbody", "tfoot", "thead", "tr", "td", "th"]

def selectInTableRules (d : Draft) (t : Token) : Outcome :=
  match t with
  | .opening name _ _ =>
    if endsSelect.contains name then ⟨d.closeSelect, some t⟩ else d.selectRules t
  | .closing name =>
    if endsSelect.contains name then
      if d.inTableScope [name] then ⟨d.closeSelect, some t⟩ else d.done
    else d.selectRules t
  | t => d.selectRules t

def templateRules (d : Draft) (t : Token) : Outcome :=
  let turn (region : Region) : Outcome :=
    { d with templates := region :: d.templates.drop 1 }.again region t
  match t with
  | .opening name _ _ =>
    if headNames.contains name then d.headRules t
    else match name with
      | "caption" | "colgroup" | "tbody" | "tfoot" | "thead" => turn .inTable
      | "col" => turn .inColumnGroup
      | "tr" => turn .inTableBody
      | "td" | "th" => turn .inRow
      | _ => turn .inBody
  | .closing "template" => d.headRules t
  | .closing _ => d.done
  | .finish => d.templateEnd t
  | t => d.bodyRules t

def afterBodyRules (d : Draft) (t : Token) : Outcome :=
  match t with
  | .space _ => d.bodyRules t
  | .comment s => (d.place (.inside (d.opened.getLast?.getD 0)) (.comment s)).done
  | .doctype .. | .finish => d.done
  | .opening "html" attributes _ => (d.moreRoot attributes).done
  | .closing "html" => { d with region := .afterAfterBody }.done
  | t => d.again .inBody t

def afterAfterBodyRules (d : Draft) (t : Token) : Outcome :=
  match t with
  | .comment s => (d.place (.inside 0) (.comment s)).done
  | .space _ => d.bodyRules t
  | .doctype .. | .finish => d.done
  | .opening "html" attributes _ => (d.moreRoot attributes).done
  | t => d.again .inBody t

def framesetRules (d : Draft) (t : Token) : Outcome :=
  match t with
  | .space s => (d.addText s).done
  | .comment s => (d.addComment s).done
  | .opening name attributes _ =>
    match name with
    | "html" => (d.moreRoot attributes).done
    | "frameset" => (d.insert name attributes).done
    | "frame" => (d.insertVoid name attributes).done
    | "noframes" => d.headRules t
    | _ => d.done
  | .closing "frameset" =>
    if d.opened.length ≤ 1 then d.done
    else
      let d := d.pop
      (if d.currentIs ["frameset"] then d else { d with region := .afterFrameset }).done
  | _ => d.done

/-- The rules behind a frameset, and behind everything in a page that is one. -/
def afterFramesetRules (d : Draft) (t : Token) : Outcome :=
  match t with
  | .space s => (d.addText s).done
  | .comment s =>
    (if d.region == .afterFrameset then d.addComment s
      else d.place (.inside 0) (.comment s)).done
  | .opening "html" attributes _ => (d.moreRoot attributes).done
  | .opening "noframes" _ _ => d.headRules t
  | .closing "html" => { d with region := .afterAfterFrameset }.done
  | _ => d.done

end RouteAlerts.Html.Draft
