import RouteAlerts.Text.Blank
import RouteAlerts.Text.Digit

/-!
Clock times as they are printed: one or two digits, a colon and two digits, with blanks allowed on
either side of the colon. Digits of any script are taken, and what a clock says is not checked here.
-/

namespace RouteAlerts

open Text

/-- A clock time with the blanks around its colon. -/
structure PrintedClock where
  hour : List Char
  gapBefore : List Char
  gapAfter : List Char
  minute : List Char
  deriving DecidableEq, Repr

namespace PrintedClock

def raw (c : PrintedClock) : List Char :=
  c.hour ++ c.gapBefore ++ ':' :: c.gapAfter ++ c.minute

/-- The clock without blanks. -/
def tight (c : PrintedClock) : List Char := c.hour ++ ':' :: c.minute

def read? : Reader PrintedClock := fun s => do
  let (hour, s) ← oneOrTwoDigits? s
  let gapBefore := s.takeWhile isBlank
  match s.dropWhile isBlank with
  | ':' :: s =>
    let gapAfter := s.takeWhile isBlank
    let (minute, s) ← digits? 2 (s.dropWhile isBlank)
    some (⟨hour, gapBefore, gapAfter, minute⟩, s)
  | _ => none

end PrintedClock

/-- The rest of a text behind blanks that hold a line break. -/
def afterLineBreak? (s : List Char) : Option (List Char) :=
  if (s.takeWhile isBlank).contains '\n' then some (s.dropWhile isBlank) else none

end RouteAlerts
