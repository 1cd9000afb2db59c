import RouteAlerts.Html.Draft

/-!
The rules at the start of a page: the document type, the elements around everything, and what stands
in the head. They also serve for head elements that stand elsewhere.
-/

namespace RouteAlerts.Html

open Text

/-- What a rule made of a token: the page, and the token that is to be looked at again. -/
structure Outcome where
  draft : Draft
  left : Option Token := none

namespace Draft

def done (d : Draft) : Outcome := ⟨d, none⟩

/-- The token is to be looked at again in another region. -/
def again (d : Draft) (region : Region) (t : Token) : Outcome := ⟨{ d with region }, some t⟩

/-! ### Document types -/

/-- Whether a page with this document type gets the lenient rules: a type that cannot be read, one
of another name, or one whose public identifier names a version of the language before 4.01, the
strict form of 4.0 aside. Two loose forms of 4.01 count when there is no system identifier. -/
def isLenientType (name : List Char) (publicId systemId : Option (List Char)) (broken : Bool) :
    Bool :=
  let mentions (words : String) : Bool :=
    match publicId with
    | some s => contains (s.map Char.toLower) words.toList
    | none => false
  broken || name != "html".toList ||
  (mentions "dtd html" && !mentions "dtd html 4.0//" && !mentions "dtd html 4.01") || mentions "dtd w3 html" ||
  (systemId.isNone && (mentions "dtd html 4.01 frameset" || mentions "dtd html 4.01 transitional"))

/-! ### Regions -/

/-- The region that the open elements put a page in. -/
def regionOf (d : Draft) : List Nat → Region
  | [] => .inBody
  | id :: around =>
    let e := d.entry id
    if e.space != .html then d.regionOf around
    else match e.name with
      | "select" =>
        let outer := around.find? (d.isNamed ["table", "template"])
        if outer.any (d.isNamed ["table"]) then .inSelectInTable else .inSelect
      | "td" | "th" => if around.isEmpty then .inBody else .inCell
      | "tr" => .inRow
      | "tbody" | "thead" | "tfoot" => .inTableBody
      | "caption" => .inCaption
      | "colgroup" => .inColumnGroup
      | "table" => .inTable
      | "template" => d.templates.headD .inBody
      | "head" => if around.isEmpty then .inBody else .inHead
      | "body" => .inBody
      | "frameset" => .inFrameset
      | "html" => if d.head.isNone then .beforeHead else .afterHead
      | _ => d.regionOf around

/-- Sets the region by the open elements. -/
def resetRegion (d : Draft) : Draft := { d with region := d.regionOf d.opened }

def startText (d : Draft) (name : String) (attributes : Attributes) (markup : Markup) : Draft :=
  let d := d.insert name attributes
  { d with markup, resume := d.region, region := .inText }

/-- Closes the innermost template. -/
def closeTemplate (d : Draft) : Draft :=
  let d := (d.closeAllImplied.popNamed ["template"]).clearToMark
  { d with templates := d.templates.drop 1 }.resetRegion

/-- A further tag of the outermost element adds the attributes it does not have yet. -/
def moreRoot (d : Draft) (attributes : Attributes) : Draft :=
  if d.isOpen ["template"] then d
  else d.addAttributes (d.opened.getLast?.getD 0) attributes

def headVoids : List String := ["base", "basefont", "bgsound", "link", "meta"]

/-- Elements that the rules of the head deal with wherever they stand. -/
def headNames : List String :=
  headVoids ++ ["noframes", "script", "style", "template", "title"]

/-! ### Rules -/

def initialRules (d : Draft) (t : Token) : Outcome :=
  match t with
  | .space _ => d.done
  | .comment s => (d.place (.inside 0) (.comment s)).done
  | .doctype name publicId systemId broken =>
    { d with lenient := isLenientType name publicId systemId broken, region := .beforeHtml }.done
  | t => { d with lenient := true }.again .beforeHtml t

def openRoot (d : Draft) (attributes : Attributes) : Draft :=
  let (d, id) := d.create .html "html" attributes
  let d := d.place (.inside 0) (.element id)
  { d with opened := [id], region := .beforeHead }

def beforeHtmlRules (d : Draft) (t : Token) : Outcome :=
  let other := (d.openRoot []).again .beforeHead t
  match t with
  | .doctype .. | .space _ => d.done
  | .comment s => (d.place (.inside 0) (.comment s)).done
  | .opening "html" attributes _ => (d.openRoot attributes).done
  | .closing name => if ["head", "body", "html", "br"].contains name then other else d.done
  | _ => other

def openHead (d : Draft) (attributes : Attributes) : Draft :=
  let d := d.insert "head" attributes
  { d with head := some d.current, region := .inHead }

def beforeHeadRules (d : Draft) (t : Token) : Outcome :=
  let other := (d.openHead []).again .inHead t
  match t with
  | .doctype .. | .space _ => d.done
  | .comment s => (d.addComment s).done
  | .opening "html" attributes _ => (d.moreRoot attributes).done
  | .opening "head" attributes _ => (d.openHead attributes).done
  | .closing name => if ["head", "body", "html", "br"].contains name then other else d.done
  | _ => other

def headRules (d : Draft) (t : Token) : Outcome :=
  let other := d.pop.again .afterHead t
  match t with
  | .space s => (d.addText s).done
  | .comment s => (d.addComment s).done
  | .doctype .. => d.done
  | .opening name attributes _ =>
    if headVoids.contains name then (d.insertVoid name attributes).done
    else match name with
      | "html" => (d.moreRoot attributes).done
      | "title" => (d.startText name attributes (.references name)).done
      | "noframes" | "style" | "noscript" => (d.startText name attributes (.closingTag name)).done
      | "script" => (d.startText name attributes .script).done
      | "template" =>
        let d := (d.insert name attributes).mark
        { d with
          framesetAllowed := false, region := .inTemplate,
          templates := .inTemplate :: d.templates }.done
      | "head" => d.done
      | _ => other
  | .closing name =>
    match name with
    | "head" => { d.pop with region := .afterHead }.done
    | "body" | "html" | "br" => other
    | "template" => (if d.isOpen ["template"] then d.closeTemplate else d).done
    | _ => d.done
  | _ => other

def afterHeadRules (d : Draft) (t : Token) : Outcome :=
  let other := (d.insert "body" []).again .inBody t
  match t with
  | .space s => (d.addText s).done
  | .comment s => (d.addComment s).done
  | .doctype .. => d.done
  | .opening name attributes _ =>
    if headNames.contains name then
      match d.head with
      | none => d.done
      | some head =>
        let ⟨d, left⟩ := { d with opened := head :: d.opened }.headRules t
        ⟨{ d with opened := d.opened.filter (· != head) }, left⟩
    else match name with
      | "html" => (d.moreRoot attributes).done
      | "body" => { d.insert name attributes with framesetAllowed := false, region := .inBody }.done
      | "frameset" => { d.insert name attributes with region := .inFrameset }.done
      | "head" => d.done
      | _ => other
  | .closing name =>
    match name with
    | "body" | "html" | "br" => other
    | "template" => d.headRules t
    | _ => d.done
  | _ => other

end Draft

end RouteAlerts.Html
