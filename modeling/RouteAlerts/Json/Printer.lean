import RouteAlerts.Json.Value

/-!
JSON written: on one line without blanks, or indented by two spaces a level with a line for every
item and member. Only quotes, backslashes and control characters are escaped.
-/

namespace RouteAlerts.Json

open Text

def escapeChar (c : Char) : List Char :=
  match c with
  | '"' => ['\\', '"']
  | '\\' => ['\\', '\\']
  | '\x08' => ['\\', 'b']
  | '\x0c' => ['\\', 'f']
  | '\n' => ['\\', 'n']
  | '\r' => ['\\', 'r']
  | '\t' => ['\\', 't']
  | c =>
    if c.toNat < 0x20 then
      ['\\', 'u', '0', '0', Nat.digitChar (c.toNat / 16), Nat.digitChar (c.toNat % 16)]
    else [c]

def quote (s : List Char) : List Char := '"' :: s.flatMap escapeChar ++ ['"']

def Number.text (n : Number) : List Char :=
  (if n.negative then ['-'] else []) ++ n.whole ++
  (if n.fraction.isEmpty then [] else '.' :: n.fraction) ++
  match n.power with
  | none => []
  | some (negative, digits) => 'e' :: (if negative then '-' :: digits else digits)

mutual

/-- A value on one line without blanks. -/
def compact : Value (List Char) → List Char
  | .null => "null".toList
  | .bool b => if b then "true".toList else "false".toList
  | .number n => n.text
  | .string s => quote s
  | .array vs => '[' :: joinWith [','] (compactItems vs) ++ [']']
  | .object ms => '\x7b' :: joinWith [','] (compactMembers ms) ++ ['\x7d']

def compactItems : List (Value (List Char)) → List (List Char)
  | [] => []
  | v :: vs => compact v :: compactItems vs

def compactMembers : List (List Char × Value (List Char)) → List (List Char)
  | [] => []
  | (key, v) :: ms => (quote key ++ ':' :: compact v) :: compactMembers ms

end

/-- A new line indented by a number of levels. -/
def newLine (level : Nat) : List Char := '\n' :: List.replicate (2 * level) ' '

/-- Lines of one level between two brackets; nothing between them when there are none. -/
def block (level : Nat) (opening closing : Char) (lines : List (List Char)) : List Char :=
  if lines.isEmpty then [opening, closing]
  else opening :: newLine (level + 1) ++ joinWith (',' :: newLine (level + 1)) lines ++
    newLine level ++ [closing]

mutual

/-- A value over several lines, starting at an indentation level. -/
def pretty (level : Nat) : Value (List Char) → List Char
  | .array vs => block level '[' ']' (prettyItems (level + 1) vs)
  | .object ms => block level '\x7b' '\x7d' (prettyMembers (level + 1) ms)
  | v => compact v

/-- The items of an array, each starting at a level. -/
def prettyItems (level : Nat) : List (Value (List Char)) → List (List Char)
  | [] => []
  | v :: vs => pretty level v :: prettyItems level vs

def prettyMembers (level : Nat) : List (List Char × Value (List Char)) → List (List Char)
  | [] => []
  | (key, v) :: ms => (quote key ++ ':' :: ' ' :: pretty level v) :: prettyMembers level ms

end

end RouteAlerts.Json
