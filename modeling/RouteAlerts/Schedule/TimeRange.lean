import RouteAlerts.Announcement.Basic
import RouteAlerts.Bulletin.Clock

/-!
The times of a row of the assembly table: two clock times with a sign between them, a lone clock
time, or an hour of the morning or the afternoon. Where no end is given one of the two end marks
stands for it.
-/

namespace RouteAlerts.Schedule

open Text

structure TimeRange where
  start : List Char
  finish : List Char
  deriving DecidableEq, Repr

namespace TimeRange

/-- The signs for a range, in their usual shape. -/
def usualSign (c : Char) : Char :=
  if c == '∼' || c == '〜' then '~' else if c == '–' || c == '—' then '-' else c

def clocks? : Reader (PrintedClock × PrintedClock) := fun s => do
  let (start, s) ← PrintedClock.read? s
  match trimStart s with
  | c :: s =>
    if c == '~' || c == '-' then
      let (finish, s) ← PrintedClock.read? (trimStart s)
      some ((start, finish), s)
    else none
  | [] => none

def apart? (first second : String) : Reader Unit := fun s => do
  let ((), s) ← literal first.toList s
  literal second.toList (trimStart s)

/-- Words for the end of an assembly. -/
def dismissal? : Reader Unit := fun s =>
  [("종료", "시"), ("끝날", "때"), ("끝", "때"), ("해산", "시")].findSome? fun (a, b) => apart? a b s

/-- An hour of the morning or the afternoon: which half of the day, and the hour. -/
def colloquial? : Reader (Bool × List Char) := fun s => do
  let (afternoon, s) ← match s with
    | '오' :: '전' :: s => some (false, s)
    | '오' :: '후' :: s => some (true, s)
    | _ => none
  let (hour, s) ← oneOrTwoDigits? (trimStart s)
  match trimStart s with
  | '시' :: s => some ((afternoon, hour), s)
  | _ => none

/-- The hour of the day; twelve is noon in the afternoon and midnight in the morning. -/
def hourOfDay (afternoon : Bool) (hour : Nat) : Nat :=
  if afternoon then if hour == 12 then 12 else hour + 12
  else if hour == 12 then 0 else hour

def read? (text : List Char) : Option TimeRange :=
  let text := (squeeze text).map usualSign
  match firstMatch clocks? text with
  | some (_, (start, finish), _) => some ⟨strip start.raw, strip finish.raw⟩
  | none =>
    match firstMatch PrintedClock.read? text with
    | some (_, start, _) =>
      let mark := if (firstMatch dismissal? text).isSome then untilDismissal else undetermined
      some ⟨strip start.raw, mark.toList⟩
    | none => do
      let (_, (afternoon, hour), _) ← firstMatch colloquial? text
      let hour ← readNat? (numbersOf 32) hour
      some ⟨padded 2 (hourOfDay afternoon hour) ++ ":00".toList, undetermined.toList⟩

end TimeRange

end RouteAlerts.Schedule
