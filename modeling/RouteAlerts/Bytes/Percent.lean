import RouteAlerts.Bytes.Utf8

/-!
Percent coding: bytes that may not stand for themselves are written as a percent sign and two
hexadecimal digits.
-/

namespace RouteAlerts.Percent

def hexValue? (b : UInt8) : Option UInt8 :=
  if 0x30 ≤ b && b ≤ 0x39 then some (b - 0x30)
  else if 0x41 ≤ b && b ≤ 0x46 then some (b - 0x41 + 10)
  else if 0x61 ≤ b && b ≤ 0x66 then some (b - 0x61 + 10)
  else none

/-- The bytes that a percent-coded sequence stands for. A percent sign without two hexadecimal
digits after it stands for itself. -/
def decode : Bytes → Bytes
  | [] => []
  | 0x25 :: x :: y :: s =>
    match hexValue? x, hexValue? y with
    | some x, some y => (x * 16 + y) :: decode s
    | _, _ => 0x25 :: decode (x :: y :: s)
  | b :: s => b :: decode s
termination_by s => s.length

/-- A byte as a percent sign and two upper-case hexadecimal digits. -/
def escape (b : UInt8) : List Char :=
  let digit (n : Nat) : Char :=
    if n < 10 then Char.ofNat ('0'.toNat + n) else Char.ofNat ('A'.toNat + (n - 10))
  ['%', digit (b.toNat / 16), digit (b.toNat % 16)]

/-- A text with the characters that satisfy `mustEscape`, and all that are not ASCII, escaped. -/
def encodeWhere (mustEscape : Char → Bool) (s : List Char) : List Char :=
  s.flatMap fun c =>
    if c.toNat < 0x80 && !mustEscape c then [c] else (String.utf8EncodeChar c).flatMap escape

/-- A value inside a form-encoded query: letters, digits and four marks stand for themselves, a
space is a plus sign. -/
def formEncode (s : List Char) : List Char :=
  s.flatMap fun c =>
    if c.isAlphanum || c == '*' || c == '-' || c == '.' || c == '_' then [c]
    else if c == ' ' then ['+']
    else (String.utf8EncodeChar c).flatMap escape

end RouteAlerts.Percent
