import RouteAlerts.Html.Token

/-!
A page under construction: its nodes by number, the elements that are still open, and what the rules
for the next token have to remember. Markup that is wrongly nested moves nodes around, so nodes are
numbered here and become a tree at the end.
-/

namespace RouteAlerts.Html

/-- The vocabulary of an element. -/
inductive Space where
  | html
  | svg
  | math
  deriving DecidableEq, Repr

/-- A child of a node under construction. -/
inductive Slot where
  | element (id : Nat)
  | text (s : List Char)
  | comment (s : List Char)

/-- A node under construction. -/
structure Entry where
  space : Space
  name : String
  attributes : Attributes
  parent : Option Nat := none
  children : List Slot := []

/-- An entry of the list of open formatting: elements that markup reopens when it is wrongly nested,
with marks that hide what was opened outside of a cell or an object. -/
inductive Formatting where
  | marker
  | element (id : Nat)
  deriving DecidableEq

/-- The part of the page that is being built, which decides what a token means. -/
inductive Region where
  | initial | beforeHtml | beforeHead | inHead | afterHead | inBody | inText | inTable
  | inTableText | inCaption | inColumnGroup | inTableBody | inRow | inCell | inSelect
  | inSelectInTable | inTemplate | afterBody | inFrameset | afterFrameset | afterAfterBody
  | afterAfterFrameset
  deriving DecidableEq

/-- A page under construction. Node 0 is the page itself; lists of elements have the innermost
first. -/
structure Draft where
  nodes : Array Entry := #[⟨.html, "", [], none, []⟩]
  opened : List Nat := []
  formatting : List Formatting := []
  region : Region := .initial
  /-- The region to come back to after text. -/
  resume : Region := .initial
  templates : List Region := []
  head : Option Nat := none
  form : Option Nat := none
  framesetAllowed : Bool := true
  /-- Whether the page asks for the rules of pages without a document type. -/
  lenient : Bool := false
  /-- Whether nodes that do not belong into a table go before it. -/
  fostering : Bool := false
  /-- Text that was seen between the cells of a table. -/
  stray : List Char := []
  /-- Whether a line break at the start of the next text is dropped. -/
  skipsBreak : Bool := false
  /-- How far markup counts in what follows. -/
  markup : Markup := .full

namespace Draft

/-! ### Nodes -/

/-- What stands in for a node that does not exist. -/
def missing : Entry := ⟨.html, "", [], none, []⟩

def entry (d : Draft) (id : Nat) : Entry := d.nodes.getD id missing

def update (d : Draft) (id : Nat) (f : Entry → Entry) : Draft :=
  { d with nodes := d.nodes.modify id f }

/-- Whether a node is an element of the page's own vocabulary with one of these names. -/
def isNamed (d : Draft) (names : List String) (id : Nat) : Bool :=
  let e := d.entry id
  e.space == .html && names.contains e.name

/-- The innermost open element. -/
def current (d : Draft) : Nat := d.opened.headD 0

/-- Whether the innermost open element has one of these names. -/
def currentIs (d : Draft) (names : List String) : Bool := d.isNamed names d.current

/-- Makes an element that stands nowhere yet. -/
def create (d : Draft) (space : Space) (name : String) (attributes : Attributes) : Draft × Nat :=
  ({ d with nodes := d.nodes.push ⟨space, name, attributes, none, []⟩ }, d.nodes.size)

def Slot.isElement (id : Nat) : Slot → Bool
  | .element other => other == id
  | _ => false

def adopt (d : Draft) (parent : Nat) : Slot → Draft
  | .element id => d.update id fun e => { e with parent := some parent }
  | _ => d

/-- A list of slots with one more; text joins text. -/
def joinSlot (before : List Slot) (slot : Slot) : List Slot :=
  match slot, before.getLast? with
  | .text s, some (.text t) => before.dropLast ++ [.text (t ++ s)]
  | _, _ => before ++ [slot]

def detach (d : Draft) (id : Nat) : Draft :=
  match (d.entry id).parent with
  | none => d
  | some parent =>
    let d := d.update parent fun e => { e with children := e.children.filter (!Slot.isElement id ·) }
    d.update id fun e => { e with parent := none }

/-- Takes an element that is to be moved out of its parent. -/
def release (d : Draft) : Slot → Draft
  | .element id => d.detach id
  | _ => d

inductive Spot where
  | inside (parent : Nat)
  | before (sibling : Nat)

def place (d : Draft) (spot : Spot) (slot : Slot) : Draft :=
  let d := d.release slot
  match spot with
  | .inside parent =>
    (d.update parent fun e => { e with children := joinSlot e.children slot }).adopt parent slot
  | .before sibling =>
    match (d.entry sibling).parent with
    | none => d
    | some parent =>
      let split (e : Entry) : Entry :=
        let before := e.children.takeWhile (!Slot.isElement sibling ·)
        let after := e.children.dropWhile (!Slot.isElement sibling ·)
        { e with children := joinSlot before slot ++ after }
      (d.update parent split).adopt parent slot

/-- The element that follows one in the list of open elements: the one around it. -/
def around? (id : Nat) : List Nat → Option Nat
  | a :: b :: rest => if a == id then some b else around? id (b :: rest)
  | _ => none

/-- Where a node goes that belongs into an element: before the table, if it may not stand in one. -/
def spotIn (d : Draft) (target : Nat) : Spot :=
  if d.fostering && d.isNamed ["table", "tbody", "tfoot", "thead", "tr"] target then
    match d.opened.find? (d.isNamed ["table", "template"]) with
    | none => .inside (d.opened.getLast?.getD 0)
    | some id =>
      if d.isNamed ["template"] id then .inside id
      else if (d.entry id).parent.isSome then .before id
      else .inside ((around? id d.opened).getD 0)
  else .inside target

def spot (d : Draft) : Spot := d.spotIn d.current

def addText (d : Draft) (s : List Char) : Draft := d.place d.spot (.text s)

def addComment (d : Draft) (s : List Char) : Draft := d.place d.spot (.comment s)

/-- Puts a new element at the current spot and opens it. -/
def insertIn (d : Draft) (space : Space) (name : String) (attributes : Attributes) : Draft :=
  let spot := d.spot
  let (d, id) := d.create space name attributes
  let d := d.place spot (.element id)
  { d with opened := id :: d.opened }

/-- Puts a new element of the page's own vocabulary at the current spot and opens it. -/
def insert (d : Draft) (name : String) (attributes : Attributes) : Draft :=
  d.insertIn .html name attributes

def pop (d : Draft) : Draft := { d with opened := d.opened.drop 1 }

/-- Puts a new element without content at the current spot. -/
def insertVoid (d : Draft) (name : String) (attributes : Attributes) : Draft :=
  (d.insert name attributes).pop

/-- Adds the attributes that an element does not have yet. -/
def addAttributes (d : Draft) (id : Nat) (attributes : Attributes) : Draft :=
  d.update id fun e =>
    { e with attributes := e.attributes ++
        attributes.filter fun (key, _) => !e.attributes.any fun (k, _) => k == key }

/-! ### Open elements -/

/-- Closes elements up to one that satisfies `p`, which stays open. -/
def popTo (d : Draft) (p : Nat → Bool) : Draft :=
  { d with opened := d.opened.dropWhile (!p ·) }

/-- Closes elements up to one that satisfies `p`, and that one. -/
def popThrough (d : Draft) (p : Nat → Bool) : Draft := (d.popTo p).pop

/-- Closes elements up to one with one of these names, and that one. -/
def popNamed (d : Draft) (names : List String) : Draft := d.popThrough (d.isNamed names)

def isOpen (d : Draft) (names : List String) : Bool := d.opened.any (d.isNamed names)

/-- Whether an element that satisfies `p` is open inside of all that satisfy `stops`. -/
def inScopeOf (d : Draft) (stops p : Nat → Bool) : Bool :=
  match d.opened.find? fun id => p id || stops id with
  | some id => p id
  | none => false

/-- The elements that hide what is open around them. -/
def isScope (d : Draft) (id : Nat) : Bool :=
  let e := d.entry id
  match e.space with
  | .html => ["applet", "caption", "html", "table", "td", "th", "marquee", "object",
      "template"].contains e.name
  | .math => ["mi", "mo", "mn", "ms", "mtext", "annotation-xml"].contains e.name
  | .svg => ["foreignObject", "desc", "title"].contains e.name

/-- Whether an element with one of these names is open in scope. -/
def inScope (d : Draft) (names : List String) : Bool :=
  d.inScopeOf d.isScope (d.isNamed names)

/-- Whether an element is open in scope, lists counting as scopes too. -/
def inListScope (d : Draft) (names : List String) : Bool :=
  d.inScopeOf (fun id => d.isScope id || d.isNamed ["ol", "ul"] id) (d.isNamed names)

/-- Whether an element is open in scope, buttons counting as scopes too. -/
def inButtonScope (d : Draft) (names : List String) : Bool :=
  d.inScopeOf (fun id => d.isScope id || d.isNamed ["button"] id) (d.isNamed names)

/-- Whether an element is open inside of the table. -/
def inTableScope (d : Draft) (names : List String) : Bool :=
  d.inScopeOf (d.isNamed ["html", "table", "template"]) (d.isNamed names)

/-- Whether an element is open inside of the selection. -/
def inSelectScope (d : Draft) (names : List String) : Bool :=
  d.inScopeOf (fun id => !d.isNamed ["optgroup", "option"] id) (d.isNamed names)

/-- The elements whose end tag may be left out. -/
def impliedEnds : List String :=
  ["dd", "dt", "li", "optgroup", "option", "p", "rb", "rp", "rt", "rtc"]

/-- Closes elements whose end tag may be left out, but none of these names. -/
def closeImplied (d : Draft) (keep : List String) : Draft :=
  d.popTo fun id => !d.isNamed impliedEnds id || d.isNamed keep id

/-- Closes elements whose end tag may be left out, those of tables too. -/
def closeAllImplied (d : Draft) : Draft :=
  d.popTo fun id => !d.isNamed (impliedEnds ++
    ["caption", "colgroup", "tbody", "td", "tfoot", "th", "thead", "tr"]) id

def closeParagraph (d : Draft) : Draft := (d.closeImplied ["p"]).popNamed ["p"]

/-- Closes the paragraph that is open in button scope, if there is one. -/
def leaveParagraph (d : Draft) : Draft :=
  if d.inButtonScope ["p"] then d.closeParagraph else d

/-- The elements with rules of their own, which wrongly nested end tags do not reach across. -/
def specialNames : List String :=
  ["address", "applet", "area", "article", "aside", "base", "basefont", "bgsound", "blockquote",
   "body", "br", "button", "caption", "center", "col", "colgroup", "dd", "details", "dir", "div",
   "dl", "dt", "embed", "fieldset", "figcaption", "figure", "footer", "form", "frame", "frameset",
   "h1", "h2", "h3", "h4", "h5", "h6", "head", "header", "hgroup", "hr", "html", "iframe", "img",
   "input", "keygen", "li", "link", "listing", "main", "marquee", "menu", "meta", "nav", "noembed",
   "noframes", "noscript", "object", "ol", "p", "param", "plaintext", "pre", "script", "search",
   "section", "select", "source", "style", "summary", "table", "tbody", "td", "template",
   "textarea", "tfoot", "th", "thead", "title", "tr", "track", "ul", "wbr", "xmp"]

def isSpecial (d : Draft) (id : Nat) : Bool :=
  let e := d.entry id
  match e.space with
  | .html => specialNames.contains e.name
  | _ => d.isScope id

/-! ### Formatting -/

/-- The formatting elements opened since the last mark, the latest first. -/
def formattingSinceMark (d : Draft) : List Nat :=
  (d.formatting.takeWhile (· != .marker)).filterMap fun f =>
    match f with
    | .element id => some id
    | .marker => none

def looksLike (a b : Entry) : Bool :=
  let keys (e : Entry) : List (String × List Char) := e.attributes.mergeSort fun x y => !(y.1 < x.1)
  a.space == b.space && a.name == b.name && keys a == keys b

/-- Notes the innermost open element as formatting. Of elements that look the same three are kept,
the earliest goes. -/
def noteFormatting (d : Draft) : Draft :=
  let id := d.current
  let same := d.formattingSinceMark.filter fun other => looksLike (d.entry other) (d.entry id)
  let kept := match same.drop 2 with
    | [] => d.formatting
    | earliest => match earliest.getLast? with
      | some old => d.formatting.filter (· != .element old)
      | none => d.formatting
  { d with formatting := .element id :: kept }

def mark (d : Draft) : Draft := { d with formatting := .marker :: d.formatting }

/-- Forgets the formatting since the last mark, and the mark. -/
def clearToMark (d : Draft) : Draft :=
  { d with formatting := (d.formatting.dropWhile (· != .marker)).drop 1 }

/-- Forgets one formatting element. -/
def forget (d : Draft) (id : Nat) : Draft :=
  { d with formatting := d.formatting.filter (· != .element id) }

/-- Whether a formatting entry needs no reopening: a mark, or an element that is open. -/
def isSettled (d : Draft) : Formatting → Bool
  | .marker => true
  | .element id => d.opened.contains id

/-- Opens anew the formatting elements that were closed by something else. -/
def reopenFormatting (d : Draft) : Draft :=
  let closed := d.formatting.takeWhile (!d.isSettled ·)
  let settled := d.formatting.dropWhile (!d.isSettled ·)
  closed.reverse.foldl (fun d f =>
    match f with
    | .marker => d
    | .element id =>
      let e := d.entry id
      let d := d.insertIn e.space e.name e.attributes
      { d with formatting := .element d.current :: d.formatting })
    { d with formatting := settled }

/-! ### The finished page -/

/-- The tree below a slot; `fuel` bounds its depth. -/
def nodeOf (d : Draft) : Nat → Slot → Node
  | _, .text s => .text s
  | _, .comment s => .comment s
  | 0, .element _ => .text []
  | fuel + 1, .element id =>
    let e := d.entry id
    .element e.name e.attributes (e.children.map (d.nodeOf fuel))

def page (d : Draft) : List Node := (d.entry 0).children.map (d.nodeOf d.nodes.size)

end Draft

end RouteAlerts.Html
