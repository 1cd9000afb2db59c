import RouteAlerts.Text.Digit

/-!
Identifiers of runs: 128 bits, written as hexadecimal digits in five groups.
-/

namespace RouteAlerts

open Text

structure RunId where
  value : Nat
  isSmall : value < numbersOf 128
  deriving DecidableEq

namespace RunId

def groups : List Nat := [8, 4, 4, 4, 12]

/-- The value of a hexadecimal digit in either letter case. -/
def digit? (c : Char) : Option Nat :=
  if '0' ≤ c && c ≤ '9' then some (c.toNat - '0'.toNat)
  else if 'a' ≤ c && c ≤ 'f' then some (c.toNat - 'a'.toNat + 10)
  else if 'A' ≤ c && c ≤ 'F' then some (c.toNat - 'A'.toNat + 10)
  else none

/-- The identifier with these 32 digits. -/
def ofDigits? (s : List Char) : Option RunId := do
  let digits ← s.mapM digit?
  let value := digits.foldl (fun n d => 16 * n + d) 0
  if h : value < numbersOf 128 then
    if s.length == 32 then some ⟨value, h⟩ else none
  else none

/-- The text without what may stand around the groups: braces, or the name of the scheme. -/
def unwrap (s : List Char) : List Char :=
  let scheme := "urn:uuid:".toList
  if s.length == 38 && s.head? == some '\x7b' && s.getLast? == some '\x7d' then
    (s.drop 1).dropLast
  else if s.length == 45 && scheme.isPrefixOf s then s.drop scheme.length
  else s

/-- Reads an identifier, with or without its hyphens. -/
def read? (s : List Char) : Option RunId :=
  if s.length == 32 then ofDigits? s
  else
    let parts := splitWhere (· == '-') (unwrap s)
    if parts.map List.length == groups then ofDigits? parts.flatten else none

/-- The identifier with bits taken from a number, six of which say that they are random ones. -/
def ofRandom (n : Nat) : RunId where
  value := n / numbersOf 80 % numbersOf 48 * numbersOf 80 + 4 * numbersOf 76 +
    n / numbersOf 64 % numbersOf 12 * numbersOf 64 + 2 * numbersOf 62 + n % numbersOf 62
  isSmall := by simp only [numbersOf, Nat.pow_eq]; omega

def pieces : List Nat → List Char → List (List Char)
  | [], _ => []
  | n :: ns, s => s.take n :: pieces ns (s.drop n)

/-- The digits of an identifier, letters in lower case and groups set apart by hyphens. -/
def text (r : RunId) : List Char :=
  let digits := Nat.toDigits 16 r.value
  joinWith ['-'] (pieces groups (List.replicate (32 - digits.length) '0' ++ digits))

end RunId

end RouteAlerts
