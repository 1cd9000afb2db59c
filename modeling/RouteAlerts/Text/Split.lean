/-!
Cutting a list at the elements that satisfy a test, and at the places a reader recognises.

`splitWhere` cuts at single elements; `cut` cuts at the leftmost, non-overlapping matches of a
reader. Everything that is found, replaced or split in a text of this library goes through one of
the two.
-/

namespace RouteAlerts.Text

/-- The pieces of a list between the elements that satisfy `p`. There is one more piece than there
are such elements. -/
def splitWhere {α : Type} (p : α → Bool) : List α → List (List α)
  | [] => [[]]
  | c :: s =>
    if p c then [] :: splitWhere p s
    else match splitWhere p s with
      | [] => [[c]]
      | piece :: pieces => (c :: piece) :: pieces

theorem splitWhere_ne_nil {α : Type} (p : α → Bool) (s : List α) : splitWhere p s ≠ [] := by
  cases s with
  | nil => simp [splitWhere]
  | cons c s =>
    simp only [splitWhere]
    split
    · simp
    · split <;> simp

/-- Lists joined with a separator between neighbours. -/
def joinWith {α : Type} (sep : List α) : List (List α) → List α
  | [] => []
  | [s] => s
  | s :: rest => s ++ sep ++ joinWith sep rest

/-! ### Readers -/

/-- A reader recognises something at the front of a text: what it saw and what is left. -/
abbrev Reader (α : Type) : Type := List Char → Option (α × List Char)

def literal (needle : List Char) : Reader Unit := fun s =>
  if needle.isPrefixOf s then some ((), s.drop needle.length) else none

/-- The text before the first match of `r`, then every match with the text up to the next one.
Matches are leftmost and do not overlap; a reader that consumes nothing does not match. -/
def cut {α : Type} (r : Reader α) : List Char → List Char × List (α × List Char)
  | [] => ([], [])
  | c :: s =>
    match r (c :: s) with
    | some (a, rest) =>
      if _h : rest.length < (c :: s).length then
        let (gap, found) := cut r rest
        ([], (a, gap) :: found)
      else
        let (gap, found) := cut r s
        (c :: gap, found)
    | none =>
      let (gap, found) := cut r s
      (c :: gap, found)
termination_by s => s.length
decreasing_by all_goals simp only [List.length_cons] at *; omega

/-- What `r` sees, from left to right. -/
def matchesOf {α : Type} (r : Reader α) (s : List Char) : List α :=
  (cut r s).2.map Prod.fst

def firstMatch {α : Type} (r : Reader α) : List Char → Option (List Char × α × List Char)
  | [] => none
  | c :: s =>
    match r (c :: s) with
    | some (a, rest) => some ([], a, rest)
    | none => (firstMatch r s).map fun (gap, a, rest) => (c :: gap, a, rest)

/-- Every match replaced by what `f` makes of it. -/
def substitute {α : Type} (r : Reader α) (f : α → List Char) (s : List Char) : List Char :=
  let (gap, found) := cut r s
  gap ++ found.flatMap fun (a, tail) => f a ++ tail

def replace (needle replacement : List Char) (s : List Char) : List Char :=
  substitute (literal needle) (fun _ => replacement) s

def contains (s needle : List Char) : Bool :=
  match s with
  | [] => needle.isEmpty
  | c :: rest => needle.isPrefixOf (c :: rest) || contains rest needle

/-- The text before the first element that satisfies `p` and the text after it. -/
def splitOnce (p : Char → Bool) : List Char → Option (List Char × List Char)
  | [] => none
  | c :: s => if p c then some ([], s) else (splitOnce p s).map fun (a, b) => (c :: a, b)

/-- The text before the last element that satisfies `p` and the text after it. -/
def splitLast (p : Char → Bool) : List Char → Option (List Char × List Char)
  | [] => none
  | c :: s =>
    match splitLast p s with
    | some (a, b) => some (c :: a, b)
    | none => if p c then some ([], s) else none

end RouteAlerts.Text
