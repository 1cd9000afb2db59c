import RouteAlerts.Text.Blank

/-!
Element trees: the nodes of a page, the text in them, and their markup.
-/

namespace RouteAlerts.Html

/-- The attributes of an element, names without repetition. -/
abbrev Attributes : Type := List (String × List Char)

inductive Node where
  | element (name : String) (attributes : Attributes) (children : List Node)
  | text (s : List Char)
  | comment (s : List Char)

namespace Node

/-- The name of an element; empty for other nodes. -/
def name : Node → String
  | element name _ _ => name
  | _ => ""

def children : Node → List Node
  | element _ _ children => children
  | _ => []

def attribute? (n : Node) (key : String) : Option (List Char) :=
  match n with
  | element _ attributes _ => (attributes.find? fun (k, _) => k == key).map Prod.snd
  | _ => none

def classes (n : Node) : List (List Char) :=
  match n.attribute? "class" with
  | some s => Text.words s
  | none => []

mutual

/-- The text nodes of a tree, in document order. -/
def texts : Node → List (List Char)
  | text s => [s]
  | comment _ => []
  | element _ _ children => textsOf children

/-- The text nodes of a list of trees, in document order. -/
def textsOf : List Node → List (List Char)
  | [] => []
  | n :: ns => texts n ++ textsOf ns

end

def content (n : Node) : List Char := n.texts.flatten

/-! ### Markup -/

/-- The elements that have no content and no end tag. -/
def voidNames : List String :=
  ["area", "base", "basefont", "bgsound", "br", "col", "embed", "frame", "hr", "img", "input",
    "keygen", "link", "meta", "param", "source", "track", "wbr"]

/-- The elements whose text is written as it is. -/
def rawNames : List String :=
  ["style", "script", "xmp", "iframe", "noembed", "noframes", "plaintext", "noscript"]

def escapeText (c : Char) : List Char :=
  match c with
  | '&' => "&amp;".toList
  | '\u00A0' => "&nbsp;".toList
  | '<' => "&lt;".toList
  | '>' => "&gt;".toList
  | c => [c]

def escapeValue (c : Char) : List Char :=
  match c with
  | '&' => "&amp;".toList
  | '\u00A0' => "&nbsp;".toList
  | '"' => "&quot;".toList
  | c => [c]

/-- The attributes in markup, in the order of their names. -/
def attributesMarkup (attributes : Attributes) : List Char :=
  (attributes.mergeSort fun a b => !(b.1 < a.1)).flatMap fun (key, value) =>
    ' ' :: key.toList ++ ['=', '"'] ++ value.flatMap escapeValue ++ ['"']

mutual

/-- The markup of a tree inside an element of a given name. -/
def markup (parent : String) : Node → List Char
  | text s => if rawNames.contains parent then s else s.flatMap escapeText
  | comment s => "<!--".toList ++ s ++ "-->".toList
  | element name attributes children =>
    '<' :: name.toList ++ attributesMarkup attributes ++ ['>'] ++
    if voidNames.contains name then []
    else markupOf name children ++ "</".toList ++ name.toList ++ ['>']

/-- The markup of the trees inside an element of a given name. -/
def markupOf (parent : String) : List Node → List Char
  | [] => []
  | n :: ns => markup parent n ++ markupOf parent ns

end

end Node

end RouteAlerts.Html
