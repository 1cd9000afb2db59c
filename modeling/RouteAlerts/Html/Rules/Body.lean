import RouteAlerts.Html.Rules.Head
import RouteAlerts.Html.Rules.Nesting

/-!
The rules in the body: blocks close the paragraph they start in, formatting is reopened where text
goes on, and some elements end others of their kind.
-/

namespace RouteAlerts.Html.Draft

/-- Blocks that close a paragraph. -/
def blockNames : List String :=
  ["address", "article", "aside", "blockquote", "center", "details", "dialog", "dir", "div", "dl",
   "fieldset", "figcaption", "figure", "footer", "header", "hgroup", "main", "menu", "nav", "ol",
   "search", "section", "summary", "ul"]

def headings : List String := ["h1", "h2", "h3", "h4", "h5", "h6"]

def formattingNames : List String :=
  ["b", "big", "code", "em", "font", "i", "s", "small", "strike", "strong", "tt", "u"]

/-- Elements of a table, which mean nothing outside of one. -/
def tableParts : List String :=
  ["caption", "col", "colgroup", "tbody", "td", "tfoot", "th", "thead", "tr"]

/-- From here on the page is no frameset any more. -/
def noFrameset (d : Draft) : Draft := { d with framesetAllowed := false }

/-- Ends the innermost list item of one of these names, unless another block is in between. -/
def leaveItem (d : Draft) (names : List String) : Draft :=
  let stops (id : Nat) : Bool := d.isSpecial id && !d.isNamed ["address", "div", "p"] id
  match d.opened.find? fun id => d.isNamed names id || stops id with
  | none => d
  | some id =>
    if d.isNamed names id then
      let name := (d.entry id).name
      (d.closeImplied [name]).popNamed [name]
    else d

/-- The body, if it stands right inside the outermost element. -/
def bodyElement? (d : Draft) : Option Nat :=
  match d.opened.reverse with
  | _ :: id :: _ => if d.isNamed ["body"] id then some id else none
  | _ => none

/-- A frameset in the place of a body that has nothing in it yet. -/
def openFrameset (d : Draft) (attributes : Attributes) : Draft :=
  match d.bodyElement? with
  | none => d
  | some body =>
    if !d.framesetAllowed then d
    else
      let d := d.detach body
      let d := { d with opened := d.opened.drop (d.opened.length - 1) }
      { d.insert "frameset" attributes with region := .inFrameset }

/-- A link inside a link ends it. -/
def leaveLink (d : Draft) : Draft :=
  match d.formattingSinceMark.find? (d.isNamed ["a"]) with
  | none => d
  | some id =>
    let d := (d.closeFormatting "a").forget id
    { d with opened := d.opened.filter (· != id) }

/-- An element of a vocabulary of its own. -/
def openForeign (d : Draft) (space : Space) (name : String) (attributes : Attributes)
    (closesItself : Bool) : Draft :=
  let d := d.insertIn space name attributes
  if closesItself then d.pop else d

/-- Whether an attribute has a value, letter case aside. -/
def hasValue (attributes : Attributes) (key value : String) : Bool :=
  attributes.any fun (k, v) => k == key && v.map Char.toLower == value.toList

def bodyOpening (d : Draft) (name : String) (attributes : Attributes) (closesItself : Bool) :
    Outcome :=
  let opened (d : Draft) : Draft := d.insert name attributes
  if headNames.contains name then d.headRules (.opening name attributes closesItself)
  else if blockNames.contains name || name == "p" then (opened d.leaveParagraph).done
  else if headings.contains name then
    let d := d.leaveParagraph
    (opened (if d.currentIs headings then d.pop else d)).done
  else if formattingNames.contains name then (opened d.reopenFormatting).noteFormatting.done
  else if tableParts.contains name then d.done
  else match name with
    | "html" => (d.moreRoot attributes).done
    | "body" =>
      match d.bodyElement? with
      | none => d.done
      | some body =>
        (if d.isOpen ["template"] then d else d.noFrameset.addAttributes body attributes).done
    | "frameset" => (d.openFrameset attributes).done
    | "head" | "frame" => d.done
    | "pre" | "listing" => { (opened d.leaveParagraph).noFrameset with skipsBreak := true }.done
    | "form" =>
      let inTemplate := d.isOpen ["template"]
      if d.form.isSome && !inTemplate then d.done
      else
        let d := opened d.leaveParagraph
        (if inTemplate then d else { d with form := some d.current }).done
    | "li" => (opened (d.noFrameset.leaveItem ["li"]).leaveParagraph).done
    | "dd" | "dt" => (opened (d.noFrameset.leaveItem ["dd", "dt"]).leaveParagraph).done
    | "plaintext" => { opened d.leaveParagraph with markup := .nothing }.done
    | "button" =>
      let d := if d.inScope ["button"] then (d.closeImplied []).popNamed ["button"] else d
      (opened d.reopenFormatting).noFrameset.done
    | "a" => (opened d.leaveLink.reopenFormatting).noteFormatting.done
    | "nobr" =>
      let d := d.reopenFormatting
      let d := if d.inScope ["nobr"] then (d.closeFormatting "nobr").reopenFormatting else d
      (opened d).noteFormatting.done
    | "applet" | "marquee" | "object" => (opened d.reopenFormatting).mark.noFrameset.done
    | "table" =>
      let d := if d.lenient then d else d.leaveParagraph
      { (opened d).noFrameset with region := .inTable }.done
    | "area" | "br" | "embed" | "img" | "keygen" | "wbr" =>
      (d.reopenFormatting.insertVoid name attributes).noFrameset.done
    | "input" =>
      let d := d.reopenFormatting.insertVoid name attributes
      (if hasValue attributes "type" "hidden" then d else d.noFrameset).done
    | "param" | "source" | "track" => (d.insertVoid name attributes).done
    | "hr" => (d.leaveParagraph.insertVoid name attributes).noFrameset.done
    | "image" => ⟨d, some (.opening "img" attributes closesItself)⟩
    | "textarea" =>
      { (d.startText name attributes (.references name)).noFrameset with skipsBreak := true }.done
    | "xmp" =>
      (d.leaveParagraph.reopenFormatting.noFrameset.startText name attributes
        (.closingTag name)).done
    | "iframe" => (d.noFrameset.startText name attributes (.closingTag name)).done
    | "noembed" | "noscript" => (d.startText name attributes (.closingTag name)).done
    | "select" =>
      let inTable := [.inTable, .inCaption, .inTableBody, .inRow, .inCell].contains d.region
      let d := (opened d.reopenFormatting).noFrameset
      { d with region := if inTable then .inSelectInTable else .inSelect }.done
    | "optgroup" | "option" =>
      let d := if d.currentIs ["option"] then d.pop else d
      (opened d.reopenFormatting).done
    | "rb" | "rtc" => (opened (if d.inScope ["ruby"] then d.closeImplied [] else d)).done
    | "rp" | "rt" => (opened (if d.inScope ["ruby"] then d.closeImplied ["rtc"] else d)).done
    | "math" => (d.reopenFormatting.openForeign .math name attributes closesItself).done
    | "svg" => (d.reopenFormatting.openForeign .svg name attributes closesItself).done
    | _ => (opened d.reopenFormatting).done

def closeForm (d : Draft) : Draft :=
  if d.isOpen ["template"] then
    if d.inScope ["form"] then (d.closeImplied []).popNamed ["form"] else d
  else
    match d.form with
    | none => d
    | some id =>
      let d := { d with form := none }
      if d.inScopeOf d.isScope (· == id) then
        let d := d.closeImplied []
        { d with opened := d.opened.filter (· != id) }
      else d

def bodyClosing (d : Draft) (name : String) : Outcome :=
  if blockNames.contains name || ["button", "listing", "pre"].contains name then
    (if d.inScope [name] then (d.closeImplied []).popNamed [name] else d).done
  else if headings.contains name then
    (if d.inScope headings then (d.closeImplied []).popNamed headings else d).done
  else if formattingNames.contains name then (d.closeFormatting name).done
  else match name with
    | "template" => d.headRules (.closing name)
    | "body" => (if d.inScope ["body"] then { d with region := .afterBody } else d).done
    | "html" => if d.inScope ["body"] then d.again .afterBody (.closing name) else d.done
    | "form" => d.closeForm.done
    | "p" =>
      (if d.inButtonScope ["p"] then d else d.insert "p" []).closeParagraph.done
    | "li" =>
      (if d.inListScope [name] then (d.closeImplied [name]).popNamed [name] else d).done
    | "dd" | "dt" =>
      (if d.inScope [name] then (d.closeImplied [name]).popNamed [name] else d).done
    | "a" | "nobr" => (d.closeFormatting name).done
    | "applet" | "marquee" | "object" =>
      (if d.inScope [name] then ((d.closeImplied []).popNamed [name]).clearToMark else d).done
    | "br" => (d.reopenFormatting.insertVoid name []).noFrameset.done
    | _ => (d.closeOther name).done

def templateEnd (d : Draft) (t : Token) : Outcome :=
  if d.isOpen ["template"] then ⟨d.closeTemplate, some t⟩ else d.done

def bodyRules (d : Draft) (t : Token) : Outcome :=
  match t with
  | .null | .doctype .. => d.done
  | .space s => (d.reopenFormatting.addText s).done
  | .text s => (d.reopenFormatting.addText s).noFrameset.done
  | .comment s => (d.addComment s).done
  | .opening name attributes closesItself => d.bodyOpening name attributes closesItself
  | .closing name => d.bodyClosing name
  | .finish => if d.templates.isEmpty then d.done else d.templateEnd t

/-- The rules inside an element whose content is text. -/
def textRules (d : Draft) (t : Token) : Outcome :=
  match t with
  | .space s | .text s => (d.addText s).done
  | .finish => d.pop.again d.resume t
  | .closing _ => { d.pop with region := d.resume }.done
  | _ => d.done

end RouteAlerts.Html.Draft
