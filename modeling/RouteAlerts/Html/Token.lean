import RouteAlerts.Html.Entity
import RouteAlerts.Html.Node

/-!
Markup cut into tokens: tags, comments, document types and text. How a text is cut depends on the
element it stands in, so the reader of one token is told how far markup counts there.
-/

namespace RouteAlerts.Html

open Text

/-- A token of markup. Text comes in runs of one kind. -/
inductive Token where
  | doctype (name : List Char) (publicId systemId : Option (List Char)) (broken : Bool)
  | opening (name : String) (attributes : Attributes) (closesItself : Bool)
  | closing (name : String)
  | comment (s : List Char)
  /-- Nothing but white space. -/
  | space (s : List Char)
  /-- No white space. -/
  | text (s : List Char)
  | null
  | finish

/-- How far markup counts in a text. -/
inductive Markup where
  /-- All of it. -/
  | full
  /-- References and the end tag of the element. -/
  | references (name : String)
  /-- The end tag of the element alone. -/
  | closingTag (name : String)
  /-- The end tag of the element, outside of a script inside a comment. -/
  | script
  /-- None of it. -/
  | nothing
  deriving DecidableEq

namespace Token

def isSpace (c : Char) : Bool :=
  c == ' ' || c == '\n' || c == '\t' || c == '\x0c' || c == '\r'

/-- The character that stands in for a null inside names, values and comments. -/
def visible (c : Char) : Char := if c == '\x00' then '\uFFFD' else c

/-- The text tokens of a text: maximal runs of white space and of other characters, and nulls. -/
def ofText (s : List Char) : List Token :=
  match s with
  | [] => []
  | c :: s =>
    if c == '\x00' then null :: ofText s
    else if isSpace c then
      space (c :: s.takeWhile isSpace) :: ofText (s.dropWhile isSpace)
    else
      let goesOn (d : Char) : Bool := d != '\x00' && !isSpace d
      text (c :: s.takeWhile goesOn) :: ofText (s.dropWhile goesOn)
termination_by s.length
decreasing_by
  · simp
  · have := (List.dropWhile_suffix isSpace (l := s)).length_le
    simp only [List.length_cons]
    omega
  · have := (List.dropWhile_suffix (fun d => d != '\x00' && !isSpace d) (l := s)).length_le
    simp only [List.length_cons]
    omega

/-! ### Tags -/

/-- An attribute value and what is left behind it; nothing when the text ends in it. -/
def attributeValue? : Reader (List Char) := fun s =>
  let value (v : List Char) : List Char := (Entity.decode true v).map visible
  match s with
  | [] => none
  | '>' :: _ => some ([], s)
  | c :: rest =>
    if c == '"' || c == '\x27' then
      match splitOnce (· == c) rest with
      | some (v, rest) => some (value v, rest)
      | none => none
    else
      let stops (d : Char) : Bool := isSpace d || d == '>'
      some (value (s.takeWhile (!stops ·)), s.dropWhile (!stops ·))

/-- An attribute with what is left behind it. An equals sign at the front belongs to the name. -/
def attribute? : Reader (List Char × List Char) := fun s =>
  let stops (d : Char) : Bool := isSpace d || d == '/' || d == '>' || d == '='
  let (first, rest) := match s with
    | '=' :: rest => (['='], rest)
    | _ => ([], s)
  let name := (first ++ rest.takeWhile (!stops ·)).map fun c => visible c.toLower
  match (rest.dropWhile (!stops ·)).dropWhile isSpace with
  | '=' :: rest =>
    (attributeValue? (rest.dropWhile isSpace)).map fun (v, rest) => ((name, v), rest)
  | rest => some ((name, []), rest)

/-- The attributes of a tag up to its end, and whether it closes itself. The first attribute of a
name counts. -/
def attributes? (seen : Attributes) : Nat → Reader (Attributes × Bool)
  | 0, _ => none
  | fuel + 1, s =>
    match s with
    | [] => none
    | '>' :: rest => some ((seen.reverse, false), rest)
    | '/' :: '>' :: rest => some ((seen.reverse, true), rest)
    | c :: rest =>
      if isSpace c || c == '/' then attributes? seen fuel rest
      else
        match attribute? s with
        | none => none
        | some ((name, value), rest) =>
          let name := String.ofList name
          let known := seen.any fun (key, _) => key == name
          attributes? (if known then seen else (name, value) :: seen) fuel rest

/-- A tag behind its opening bracket, and behind the slash of an end tag. -/
def tag? : Reader (String × Attributes × Bool) := fun s =>
  let stops (d : Char) : Bool := isSpace d || d == '/' || d == '>'
  let name := (s.takeWhile (!stops ·)).map fun c => visible c.toLower
  let rest := s.dropWhile (!stops ·)
  (attributes? [] (rest.length + 1) rest).map fun ((attributes, closesItself), rest) =>
    ((String.ofList name, attributes, closesItself), rest)

/-! ### Comments and document types -/

/-- The text up to a mark and the text behind it; all of it when the mark is missing. -/
def upTo (mark : List Char) : List Char → List Char × List Char
  | [] => ([], [])
  | c :: s =>
    if mark.isPrefixOf (c :: s) then ([], (c :: s).drop mark.length)
    else
      let (before, after) := upTo mark s
      (c :: before, after)

/-- A comment behind its opening mark: it ends at `-->` or `--!>`, or with the text. -/
def commentBody : List Char → List Char × List Char
  | [] | ['-'] | ['-', '-'] | ['-', '-', '!'] => ([], [])
  | '-' :: '-' :: '>' :: s => ([], s)
  | '-' :: '-' :: '!' :: '>' :: s => ([], s)
  | c :: s =>
    let (body, rest) := commentBody s
    (c :: body, rest)

/-- Whether a text starts with a word, letter case aside. -/
def startsWithWord (word s : List Char) : Bool :=
  (s.take word.length).map Char.toLower == word

/-- A quoted identifier of a document type: what it is, whether it is complete, and the rest. -/
def identifier (s : List Char) : Option (List Char) × Bool × List Char :=
  match s.dropWhile isSpace with
  | c :: rest =>
    if c == '"' || c == '\x27' then
      let body := rest.takeWhile fun d => d != c && d != '>'
      match rest.dropWhile fun d => d != c && d != '>' with
      | d :: rest => if d == c then (some body, true, rest) else (some body, false, d :: rest)
      | [] => (some body, false, [])
    else (none, true, c :: rest)
  | [] => (none, true, [])

def doctypeBody (s : List Char) : Token × List Char :=
  let s := s.dropWhile isSpace
  let stops (d : Char) : Bool := isSpace d || d == '>'
  let name := (s.takeWhile (!stops ·)).map fun c => visible c.toLower
  let body := (s.dropWhile (!stops ·)).dropWhile isSpace
  let rest := (upTo ['>'] body).2
  match body with
  | '>' :: _ => (doctype name none none name.isEmpty, rest)
  | [] => (doctype name none none true, rest)
  | _ =>
    if startsWithWord "public".toList body then
      let (publicId, whole, body) := identifier (body.drop 6)
      let (systemId, systemWhole, after) := identifier body
      (doctype name publicId systemId
        (publicId.isNone || !whole || !systemWhole || !after.contains '>' ||
          (systemId.isNone && (after.dropWhile isSpace).head? != some '>')), (upTo ['>'] after).2)
    else if startsWithWord "system".toList body then
      let (systemId, whole, after) := identifier (body.drop 6)
      (doctype name none systemId (systemId.isNone || !whole || !after.contains '>'),
        (upTo ['>'] after).2)
    else (doctype name none none true, rest)

/-- What stands behind `<!`. Marked text counts in drawings and formulas alone. -/
def declaration (foreign : Bool) (s : List Char) : List Token × List Char :=
  match s with
  | '-' :: '-' :: '>' :: s => ([comment []], s)
  | '-' :: '-' :: '-' :: '>' :: s => ([comment []], s)
  | '-' :: '-' :: s =>
    let (body, rest) := commentBody s
    ([comment (body.map visible)], rest)
  | s =>
    if startsWithWord "doctype".toList s then
      let (token, rest) := doctypeBody (s.drop 7)
      ([token], rest)
    else if foreign && "[CDATA[".toList.isPrefixOf s then
      let (body, rest) := upTo [']', ']', '>'] (s.drop 7)
      (ofText body, rest)
    else
      let (body, rest) := upTo ['>'] s
      ([comment (body.map visible)], rest)

/-! ### Text inside elements -/

def endTagAhead (name : List Char) (s : List Char) : Bool :=
  match s with
  | '<' :: '/' :: s =>
    startsWithWord name s &&
      match (s.drop name.length).head? with
      | some c => isSpace c || c == '/' || c == '>'
      | none => false
  | _ => false

def untilEndTag (name : List Char) : List Char → List Char × List Char
  | [] => ([], [])
  | c :: s =>
    if endTagAhead name (c :: s) then ([], c :: s)
    else
      let (body, rest) := untilEndTag name s
      (c :: body, rest)

/-- How deep in comments a script is. -/
inductive ScriptDepth where
  | plain
  | inComment
  | inNestedScript

/-- Whether the word `script` and an end of it stand at the front of a text. -/
def scriptAhead (s : List Char) : Bool :=
  startsWithWord "script".toList s &&
    match (s.drop 6).head? with
    | some c => isSpace c || c == '/' || c == '>'
    | none => false

def untilScriptEnd (depth : ScriptDepth) : List Char → List Char × List Char
  | [] => ([], [])
  | c :: s =>
    let go (next : ScriptDepth) : List Char × List Char :=
      let (body, rest) := untilScriptEnd next s
      (c :: body, rest)
    match depth with
    | .plain =>
      if endTagAhead "script".toList (c :: s) then ([], c :: s)
      else if c == '<' && "!--".toList.isPrefixOf s then go .inComment
      else go .plain
    | .inComment =>
      if endTagAhead "script".toList (c :: s) then ([], c :: s)
      else if c == '-' && "->".toList.isPrefixOf s then go .plain
      else if c == '<' && scriptAhead s then go .inNestedScript
      else go .inComment
    | .inNestedScript =>
      if endTagAhead "script".toList (c :: s) then go .inComment
      else if c == '-' && "->".toList.isPrefixOf s then go .plain
      else go .inNestedScript

/-! ### One step -/

/-- Whether the character behind an opening bracket makes it the start of markup. -/
def opensMarkup (s : List Char) : Bool :=
  match s with
  | c :: _ => c.isAlpha || c == '!' || c == '/' || c == '?'
  | [] => false

def untilMarkup : List Char → List Char × List Char
  | [] => ([], [])
  | c :: s =>
    if c == '<' && opensMarkup s then ([], c :: s)
    else
      let (body, rest) := untilMarkup s
      (c :: body, rest)

def closingTag (s : List Char) : List Token × List Char :=
  match s with
  | [] => (ofText ['<', '/'], [])
  | '>' :: s => ([], s)
  | c :: rest =>
    if c.isAlpha then
      match tag? s with
      | some ((name, _, _), rest) => ([closing name], rest)
      | none => ([], [])
    else
      let (body, rest) := upTo ['>'] (c :: rest)
      ([comment (body.map visible)], rest)

/-- The next tokens of a text in which all markup counts, and the rest. -/
def nextFull (foreign : Bool) (s : List Char) : List Token × List Char :=
  match s with
  | '<' :: rest =>
    if opensMarkup rest then
      match rest with
      | '!' :: rest => declaration foreign rest
      | '/' :: rest => closingTag rest
      | '?' :: _ =>
        let (body, rest) := upTo ['>'] rest
        ([comment (body.map visible)], rest)
      | _ =>
        match tag? rest with
        | some ((name, attributes, closesItself), rest) =>
          ([opening name attributes closesItself], rest)
        | none => ([], [])
    else
      let (body, rest) := untilMarkup s
      (ofText (Entity.decode false body), rest)
  | s =>
    let (body, rest) := untilMarkup s
    (ofText (Entity.decode false body), rest)

/-- The next tokens of a text and the rest. Inside an element whose markup does not count the whole
text up to its end comes at once. -/
def next (markup : Markup) (foreign : Bool) (s : List Char) : List Token × List Char :=
  let raw (found : List Char × List Char) : List Token × List Char :=
    (ofText (found.1.map visible), found.2)
  match markup with
  | .full => nextFull foreign s
  | .references name =>
    let (body, rest) := untilEndTag name.toList s
    (ofText ((Entity.decode false body).map visible), rest)
  | .closingTag name => raw (untilEndTag name.toList s)
  | .script => raw (untilScriptEnd .plain s)
  | .nothing => raw (s, [])

end Token

end RouteAlerts.Html
