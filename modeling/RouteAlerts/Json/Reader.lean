import RouteAlerts.Json.Value
import RouteAlerts.Bytes.Utf8

/-!
JSON read from bytes. The text is taken apart into characters first; a part of it that is no
character is let through inside a string, where it makes the string unreadable, and nowhere else.
-/

namespace RouteAlerts.Json

open Text

/-- A character of the text, or a part of it that is none. -/
abbrev Units : Type := List (Option Char)

/-- The rest of the text behind blanks. -/
def skipBlanks : Units → Units
  | some ' ' :: s | some '\n' :: s | some '\t' :: s | some '\r' :: s => skipBlanks s
  | s => s

/-! ### Strings -/

/-- What a string is made of. -/
inductive Piece where
  | char (c : Char)
  /-- A sixteen-bit unit, written by its number. -/
  | unit (n : Nat)
  /-- Something that is no character. -/
  | noise

def hexValue? : Option Char → Option Nat
  | some c =>
    if '0' ≤ c && c ≤ '9' then some (c.toNat - '0'.toNat)
    else if 'a' ≤ c && c ≤ 'f' then some (c.toNat - 'a'.toNat + 10)
    else if 'A' ≤ c && c ≤ 'F' then some (c.toNat - 'A'.toNat + 10)
    else none
  | none => none

/-- The character that a letter behind a backslash stands for. -/
def escaped? : Char → Option Char
  | '"' => some '"'
  | '\\' => some '\\'
  | '/' => some '/'
  | 'b' => some '\x08'
  | 'f' => some '\x0c'
  | 'n' => some '\n'
  | 'r' => some '\r'
  | 't' => some '\t'
  | _ => none

/-- The pieces of a string up to its closing quote. -/
def pieces : Units → Option (List Piece × Units)
  | [] => none
  | some '"' :: s => some ([], s)
  | some '\\' :: some 'u' :: a :: b :: c :: d :: s => do
    let a ← hexValue? a
    let b ← hexValue? b
    let c ← hexValue? c
    let d ← hexValue? d
    let (rest, s) ← pieces s
    some (.unit (((a * 16 + b) * 16 + c) * 16 + d) :: rest, s)
  | some '\\' :: some e :: s => do
    let c ← escaped? e
    let (rest, s) ← pieces s
    some (.char c :: rest, s)
  | some c :: s =>
    if c.toNat < 0x20 || c == '\\' then none
    else (pieces s).map fun (rest, s) => (.char c :: rest, s)
  | none :: s => (pieces s).map fun (rest, s) => (.noise :: rest, s)

/-- The text that pieces make up, if every unit that is half of a pair has its other half. -/
def textOf? : List Piece → Option (List Char)
  | [] => some []
  | .char c :: s => (textOf? s).map (c :: ·)
  | .noise :: _ => none
  | .unit high :: .unit low :: s =>
    if 0xD800 ≤ high && high < 0xDC00 then
      if 0xDC00 ≤ low && low < 0xE000 then
        (textOf? s).map (Char.ofNat (0x10000 + (high - 0xD800) * 0x400 + (low - 0xDC00)) :: ·)
      else none
    else if 0xDC00 ≤ high && high < 0xE000 then none
    else (textOf? (.unit low :: s)).map (Char.ofNat high :: ·)
  | .unit n :: s =>
    if 0xD800 ≤ n && n < 0xE000 then none else (textOf? s).map (Char.ofNat n :: ·)
termination_by s => s.length

/-- A string behind its opening quote. -/
def string (s : Units) : Option (Option (List Char) × Units) :=
  (pieces s).map fun (ps, rest) => (textOf? ps, rest)

/-! ### Numbers -/

def digitsOf : Units → List Char × Units
  | some c :: s =>
    if isAsciiDigit c then
      let (digits, rest) := digitsOf s
      (c :: digits, rest)
    else ([], some c :: s)
  | s => ([], s)

/-- Whole digits: a single zero, or digits that start with another one. -/
def wholeDigits (s : Units) : Option (List Char × Units) :=
  match digitsOf s with
  | ([], _) => none
  | ('0' :: _ :: _, _) => none
  | found => some found

/-- A point and at least one digit, or nothing. -/
def fractionDigits : Units → Option (List Char × Units)
  | some '.' :: s =>
    match digitsOf s with
    | ([], _) => none
    | found => some found
  | s => some ([], s)

/-- A power of ten, or nothing. -/
def powerDigits (s : Units) : Option (Option (Bool × List Char) × Units) :=
  let rest? := match s with
    | some 'e' :: rest | some 'E' :: rest => some rest
    | _ => none
  match rest? with
  | none => some (none, s)
  | some rest =>
    let (negative, rest) := match rest with
      | some '-' :: t => (true, t)
      | some '+' :: t => (false, t)
      | _ => (false, rest)
    match digitsOf rest with
    | ([], _) => none
    | (digits, rest) => some (some (negative, digits), rest)

def number (s : Units) : Option (Number × Units) := do
  let (negative, s) := match s with
    | some '-' :: rest => (true, rest)
    | _ => (false, s)
  let (whole, s) ← wholeDigits s
  let (fraction, s) ← fractionDigits s
  let (power, s) ← powerDigits s
  some (⟨negative, whole, fraction, power⟩, s)

/-! ### Values -/

def word : List Char → Units → Option Units
  | [], s => some s
  | c :: w, some d :: s => if c == d then word w s else none
  | _, _ => none

mutual

/-- A value with the blanks in front of it; `fuel` bounds how deep and how long it may be. -/
def value (fuel : Nat) (s : Units) : Option (Value (Option (List Char)) × Units) :=
  match fuel with
  | 0 => none
  | fuel + 1 =>
    match skipBlanks s with
    | some 'n' :: s => (word "ull".toList s).map fun s => (.null, s)
    | some 't' :: s => (word "rue".toList s).map fun s => (.bool true, s)
    | some 'f' :: s => (word "alse".toList s).map fun s => (.bool false, s)
    | some '"' :: s => (string s).map fun (t, s) => (.string t, s)
    | some '[' :: s =>
      match skipBlanks s with
      | some ']' :: s => some (.array [], s)
      | s => (items fuel s).map fun (vs, s) => (.array vs, s)
    | some '\x7b' :: s =>
      match skipBlanks s with
      | some '\x7d' :: s => some (.object [], s)
      | s => (members fuel s).map fun (ms, s) => (.object ms, s)
    | s => (number s).map fun (n, s) => (.number n, s)

/-- The items of an array up to its closing bracket. -/
def items (fuel : Nat) (s : Units) : Option (List (Value (Option (List Char))) × Units) :=
  match fuel with
  | 0 => none
  | fuel + 1 =>
    match value fuel s with
    | none => none
    | some (v, s) =>
      match skipBlanks s with
      | some ']' :: s => some ([v], s)
      | some ',' :: s => (items fuel s).map fun (vs, s) => (v :: vs, s)
      | _ => none

/-- The members of an object up to its closing brace. -/
def members (fuel : Nat) (s : Units) :
    Option (List (Option (List Char) × Value (Option (List Char))) × Units) :=
  match fuel with
  | 0 => none
  | fuel + 1 =>
    match skipBlanks s with
    | some '"' :: s =>
      match string s with
      | none => none
      | some (key, s) =>
        match skipBlanks s with
        | some ':' :: s =>
          match value fuel s with
          | none => none
          | some (v, s) =>
            match skipBlanks s with
            | some '\x7d' :: s => some ([(key, v)], s)
            | some ',' :: s => (members fuel s).map fun (ms, s) => ((key, v) :: ms, s)
            | _ => none
        | _ => none
    | _ => none

end

/-- The value that a text holds, with nothing but blanks around it. -/
def readUnits (s : Units) : Option (Value (Option (List Char))) :=
  match value (s.length + 1) s with
  | some (v, rest) => if (skipBlanks rest).isEmpty then some v else none
  | none => none

def readBytes (s : Bytes) : Option (Value (Option (List Char))) := readUnits (Utf8.units s)

def readText (s : List Char) : Option (Value (Option (List Char))) := readUnits (s.map some)

end RouteAlerts.Json
