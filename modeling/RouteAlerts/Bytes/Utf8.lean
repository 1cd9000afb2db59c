/-!
Text as bytes. Writing is exact; reading never fails: every maximal part of a byte sequence that
cannot begin or continue a character is read as something that is not a character.
-/

namespace RouteAlerts

abbrev Bytes : Type := List UInt8

namespace Utf8

def encode (s : List Char) : Bytes := s.flatMap String.utf8EncodeChar

def size (s : List Char) : Nat := s.foldr (fun c n => c.utf8Size + n) 0

/-- What stands in for a part that is no character. -/
def replacement : Char := '\uFFFD'

/-- The bits that a byte after the first one adds to a code point. -/
def tailBits (b : UInt8) : Nat := b.toNat % 64

/-- Whether a byte may follow inside a character. -/
def isTail (b : UInt8) : Bool := 0x80 ≤ b && b ≤ 0xBF

/-- The bytes that may come second after a first byte of a three-byte character. -/
def isSecondOfThree (first second : UInt8) : Bool :=
  if first == 0xE0 then 0xA0 ≤ second && second ≤ 0xBF
  else if first == 0xED then 0x80 ≤ second && second ≤ 0x9F
  else isTail second

/-- The bytes that may come second after a first byte of a four-byte character. -/
def isSecondOfFour (first second : UInt8) : Bool :=
  if first == 0xF0 then 0x90 ≤ second && second ≤ 0xBF
  else if first == 0xF4 then 0x80 ≤ second && second ≤ 0x8F
  else isTail second

/-- The characters of a byte sequence, with `none` for every maximal part that is no character. -/
def units : Bytes → List (Option Char)
  | [] => []
  | a :: s =>
    if a < 0x80 then some (Char.ofNat a.toNat) :: units s
    else if 0xC2 ≤ a && a ≤ 0xDF then
      match s with
      | b :: s' =>
        if isTail b then some (Char.ofNat ((a.toNat - 0xC0) * 64 + tailBits b)) :: units s'
        else none :: units (b :: s')
      | [] => [none]
    else if 0xE0 ≤ a && a ≤ 0xEF then
      match s with
      | b :: s' =>
        if isSecondOfThree a b then
          match s' with
          | c :: s'' =>
            if isTail c then
              some (Char.ofNat (((a.toNat - 0xE0) * 64 + tailBits b) * 64 + tailBits c)) :: units s''
            else none :: units (c :: s'')
          | [] => [none]
        else none :: units (b :: s')
      | [] => [none]
    else if 0xF0 ≤ a && a ≤ 0xF4 then
      match s with
      | b :: s' =>
        if isSecondOfFour a b then
          match s' with
          | c :: s'' =>
            if isTail c then
              match s'' with
              | d :: s''' =>
                if isTail d then
                  some (Char.ofNat ((((a.toNat - 0xF0) * 64 + tailBits b) * 64 + tailBits c) * 64
                    + tailBits d)) :: units s'''
                else none :: units (d :: s''')
              | [] => [none]
            else none :: units (c :: s'')
          | [] => [none]
        else none :: units (b :: s')
      | [] => [none]
    else none :: units s
termination_by s => s.length

/-- The text of a byte sequence, with the replacement character for what is no character. -/
def decode (s : Bytes) : List Char := (units s).map (·.getD replacement)

end Utf8

end RouteAlerts
