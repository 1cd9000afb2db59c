import RouteAlerts.Bytes.Utf8
import RouteAlerts.Text.Blank
import RouteAlerts.Text.Digit

/-!
Attendance figures. A number with the counter for people behind it wins; without one, the first
number that is large enough to be a crowd or is written with thousands groups.
-/

namespace RouteAlerts

open Text

/-- An attendance figure with the text around it. -/
structure Headcount where
  value : Nat
  /-- The text before the figure. -/
  before : List Char
  /-- The figure as printed, its counter included. -/
  span : List Char
  /-- The text behind the figure. -/
  after : List Char
  deriving DecidableEq, Repr

namespace Headcount

/-- The bound below which an attendance figure lies. -/
def bound : Nat := numbersOf 32

/-- The smallest bare number that counts as attendance. -/
def smallestBare : Nat := 100

/-- The value of a number, thousands commas left out; ASCII digits alone. -/
def value? (printed : List Char) : Option Nat := readNat? bound (printed.filter (· != ','))

/-- A number with the counter behind it: the number and all that was taken. -/
def counted? : Reader (List Char × List Char) := fun s => do
  let (printed, rest) ← number? s
  let gap := rest.takeWhile isBlank
  match rest.dropWhile isBlank with
  | '명' :: rest => some ((printed, printed ++ gap ++ ['명']), rest)
  | _ => none

/-- Whether a bare number is an attendance figure, and its value. What stands behind it matters: an
exit number has the sign for an exit there. -/
def bareValue? (printed rest : List Char) : Option Nat :=
  if rest.head? == some '出' then none
  else match value? printed with
    | some n => if smallestBare ≤ n || printed.contains ',' then some n else none
    | none => none

/-- The first of the numbers of a text that is an attendance figure, given the text passed over so
far. -/
def bare? (passed : List Char) : List (List Char × List Char) → Option Headcount
  | [] => none
  | (printed, tail) :: found =>
    let rest := tail ++ found.flatMap fun (p, t) => p ++ t
    match bareValue? printed rest with
    | some n => some ⟨n, passed, printed, rest⟩
    | none => bare? (passed ++ printed ++ tail) found

def find? (block : List Char) : Option Headcount :=
  let counted := match firstMatch counted? block with
    | some (before, (printed, span), after) =>
      (value? printed).map fun n => (⟨n, before, span, after⟩ : Headcount)
    | none => none
  match counted with
  | some h => some h
  | none =>
    let (gap, found) := cut number? block
    bare? gap found

/-- Where the figure starts and where it ends, counted in bytes. -/
def byteSpan (h : Headcount) : Nat × Nat :=
  (Utf8.size h.before, Utf8.size h.before + Utf8.size h.span)

end Headcount

end RouteAlerts
