import RouteAlerts.Html.EntityNames
import RouteAlerts.Text.Digit

/-!
Character references: an ampersand with a name or a number behind it stands for a character. What is
no reference stands for itself.
-/

namespace RouteAlerts.Html.Entity

open Text

/-- The value of hexadecimal digits, most significant first. -/
def hexToNat (s : List Char) : Nat :=
  s.foldl (fun n c =>
    let digit :=
      if isAsciiDigit c then c.toNat - '0'.toNat
      else if 'a' ≤ c then c.toNat - 'a'.toNat + 10
      else c.toNat - 'A'.toNat + 10
    16 * n + digit) 0

def isHexDigit (c : Char) : Bool :=
  isAsciiDigit c || ('a' ≤ c && c ≤ 'f') || ('A' ≤ c && c ≤ 'F')

/-! ### Names -/

/-- One entry of the table: the name, a space, and code points between spaces. -/
def readEntry (entry : List Char) : List Char × List Char :=
  match splitWhere (· == ' ') entry with
  | name :: codes => (name, codes.map fun code => Char.ofNat (hexToNat code))
  | [] => ([], [])

def table : List (List Char × List Char) :=
  names.flatMap fun block =>
    ((splitWhere (· == '|') block.toList).filter (!·.isEmpty)).map readEntry

/-- The longest name at the front of a text, with what it stands for. -/
def longestName? (s : List Char) : Option (List Char × List Char) :=
  table.foldl (fun best (name, chars) =>
    if name.isPrefixOf s then
      match best with
      | some (longest, _) => if longest.length < name.length then some (name, chars) else best
      | none => some (name, chars)
    else best) none

/-! ### Numbers -/

/-- The characters that the numbers from 128 to 159 stand for; zero where they stand for
themselves. -/
def highControls : List Nat :=
  [0x20AC, 0, 0x201A, 0x0192, 0x201E, 0x2026, 0x2020, 0x2021, 0x02C6, 0x2030, 0x0160, 0x2039,
   0x0152, 0, 0x017D, 0, 0, 0x2018, 0x2019, 0x201C, 0x201D, 0x2022, 0x2013, 0x2014, 0x02DC,
   0x2122, 0x0161, 0x203A, 0x0153, 0, 0x017E, 0x0178]

/-- The character with a number, the replacement character where there is none. -/
def charOfNumber (n : Nat) : Char :=
  if n == 0 || n > 0x10FFFF || (0xD800 ≤ n && n ≤ 0xDFFF) then '\uFFFD'
  else if 0x80 ≤ n && n ≤ 0x9F then
    match highControls[n - 0x80]? with
    | some m => Char.ofNat (if m == 0 then n else m)
    | none => Char.ofNat n
  else Char.ofNat n

/-- Digits, an optional semicolon, and the rest. -/
def numeric? (isDigit : Char → Bool) (value : List Char → Nat) :
    Reader Char := fun s =>
  let digits := s.takeWhile isDigit
  if digits.isEmpty then none
  else
    let rest := s.dropWhile isDigit
    some (charOfNumber (value digits), if rest.head? == some ';' then rest.drop 1 else rest)

/-! ### References -/

/-- What stands behind an ampersand, if it makes the ampersand a reference. Inside an attribute
value a name without a semicolon is none when a letter, a digit or an equals sign follows. -/
def reference? (inValue : Bool) : Reader (List Char) := fun s =>
  match s with
  | '#' :: 'x' :: s | '#' :: 'X' :: s =>
    (numeric? isHexDigit hexToNat s).map fun (c, rest) => ([c], rest)
  | '#' :: s => (numeric? isAsciiDigit digitsToNat s).map fun (c, rest) => ([c], rest)
  | s =>
    match longestName? s with
    | none => none
    | some (name, chars) =>
      let rest := s.drop name.length
      let goesOn := match rest with
        | c :: _ => c == '=' || c.isAlphanum
        | [] => false
      if inValue && name.getLast? != some ';' && goesOn then none else some (chars, rest)

/-- A text with its references replaced by what they stand for. -/
def decode (inValue : Bool) (s : List Char) : List Char :=
  substitute (fun s => match s with
    | '&' :: s => reference? inValue s
    | _ => none) id s

end RouteAlerts.Html.Entity
