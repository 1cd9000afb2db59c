import RouteAlerts.Html.Draft

/-!
The rules in drawings and formulas, whose elements have vocabularies of their own. Most elements of
a page end them.
-/

namespace RouteAlerts.Html

/-- What is to be done with a token in a drawing or a formula. -/
inductive ForeignOutcome where
  /-- The token is dealt with. -/
  | done (d : Draft)
  /-- The rules of the region apply to it. -/
  | ordinary (d : Draft)

namespace Draft

/-- Whether an element of a formula holds text of the page. -/
def isMathText (d : Draft) (id : Nat) : Bool :=
  let e := d.entry id
  e.space == .math && ["mi", "mo", "mn", "ms", "mtext"].contains e.name

/-- Whether an element of a drawing or a formula holds elements of the page. -/
def isPageHolder (d : Draft) (id : Nat) : Bool :=
  let e := d.entry id
  match e.space with
  | .html => false
  | .svg => ["foreignObject", "desc", "title"].contains e.name
  | .math =>
    e.name == "annotation-xml" && e.attributes.any fun (key, value) =>
      key == "encoding" &&
      ["text/html", "application/xhtml+xml"].any fun s => s.toList == value.map Char.toLower

/-- Whether the innermost open element belongs to a drawing or a formula. -/
def inForeign (d : Draft) : Bool := !d.opened.isEmpty && (d.entry d.current).space != .html

/-- Whether the rules of drawings and formulas apply to a token. -/
def isForeign (d : Draft) (t : Token) : Bool :=
  let id := d.current
  let e := d.entry id
  d.inForeign &&
  match t with
  | .finish => false
  | .space _ | .text _ | .null => !d.isMathText id && !d.isPageHolder id
  | .opening name _ _ =>
    !(d.isMathText id && name != "mglyph" && name != "malignmark") &&
    !(e.space == .math && e.name == "annotation-xml" && name == "svg") && !d.isPageHolder id
  | _ => true

/-- Elements that end a drawing or a formula. -/
def breakouts : List String :=
  ["b", "big", "blockquote", "body", "br", "center", "code", "dd", "div", "dl", "dt", "em", "embed",
   "h1", "h2", "h3", "h4", "h5", "h6", "head", "hr", "i", "img", "li", "listing", "menu", "meta",
   "nobr", "ol", "p", "pre", "ruby", "s", "small", "span", "strong", "strike", "sub", "sup",
   "table", "tt", "u", "ul", "var"]

/-- The names of drawing elements with capital letters in them. -/
def drawingNames : List String :=
  ["altGlyph", "altGlyphDef", "altGlyphItem", "animateColor", "animateMotion", "animateTransform",
   "clipPath", "feBlend", "feColorMatrix", "feComponentTransfer", "feComposite",
   "feConvolveMatrix", "feDiffuseLighting", "feDisplacementMap", "feDistantLight", "feDropShadow",
   "feFlood", "feFuncA", "feFuncB", "feFuncG", "feFuncR", "feGaussianBlur", "feImage", "feMerge",
   "feMergeNode", "feMorphology", "feOffset", "fePointLight", "feSpecularLighting", "feSpotLight",
   "feTile", "feTurbulence", "foreignObject", "glyphRef", "linearGradient", "radialGradient",
   "textPath"]

def lowered (name : String) : String := String.ofList (name.toList.map Char.toLower)

def drawingName (name : String) : String :=
  (drawingNames.find? fun n => lowered n == name).getD name

/-- Closes elements up to one of the page, or one that holds elements of the page. -/
def leaveForeign (d : Draft) : Draft :=
  d.popTo fun id => (d.entry id).space == .html || d.isMathText id || d.isPageHolder id

/-- An end tag in a drawing or a formula: the innermost element of that name is closed, unless the
page's own elements come first. -/
def foreignClosing (d : Draft) (name : String) : ForeignOutcome :=
  match d.opened.find? fun id => (d.entry id).space == .html || lowered (d.entry id).name == name with
  | none => .done d
  | some id =>
    if (d.entry id).space == .html then .ordinary d else .done (d.popThrough (· == id))

def foreignRules (d : Draft) (t : Token) : ForeignOutcome :=
  match t with
  | .null => .done (d.addText ['\uFFFD'])
  | .space s => .done (d.addText s)
  | .text s => .done { d.addText s with framesetAllowed := false }
  | .comment s => .done (d.addComment s)
  | .doctype .. | .finish => .done d
  | .opening name attributes closesItself =>
    let isFont := name == "font" &&
      attributes.any fun (key, _) => ["color", "face", "size"].contains key
    if breakouts.contains name || isFont then .ordinary d.pop.leaveForeign
    else
      let space := (d.entry d.current).space
      let d := d.insertIn space (if space == .svg then drawingName name else name) attributes
      .done (if closesItself then d.pop else d)
  | .closing name =>
    if ["br", "p"].contains name then .ordinary d.leaveForeign else d.foreignClosing name

end Draft

end RouteAlerts.Html
