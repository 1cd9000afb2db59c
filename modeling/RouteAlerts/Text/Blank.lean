import RouteAlerts.Text.Split

/-!
Blank characters, and the three ways in which this library tidies text: `trim` takes blanks off both
ends, `squeeze` leaves single spaces between words, `strip` takes every blank out.
-/

namespace RouteAlerts.Text

/-- The 25 characters with the `White_Space` property. -/
def isBlank (c : Char) : Bool :=
  let n := c.toNat
  (9 ≤ n && n ≤ 13) || n == 0x20 || n == 0x85 || n == 0xA0 || n == 0x1680 ||
  (0x2000 ≤ n && n ≤ 0x200A) || n == 0x2028 || n == 0x2029 || n == 0x202F || n == 0x205F ||
  n == 0x3000

def trimStart (s : List Char) : List Char := s.dropWhile isBlank

/-- The text without the elements at its end that satisfy `p`. -/
def dropEndWhile (p : Char → Bool) (s : List Char) : List Char :=
  (s.reverse.dropWhile p).reverse

def trimEnd (s : List Char) : List Char := dropEndWhile isBlank s

/-- The text without the blanks at both ends. -/
def trim (s : List Char) : List Char := trimEnd (trimStart s)

/-- The text without the elements at both ends that satisfy `p`. -/
def trimWhere (p : Char → Bool) (s : List Char) : List Char := dropEndWhile p (s.dropWhile p)

def isAllBlank (s : List Char) : Bool := s.all isBlank

/-- The maximal runs of characters that are not blank. -/
def words (s : List Char) : List (List Char) := (splitWhere isBlank s).filter (!·.isEmpty)

/-- The words with one space between neighbours: blank runs collapse and the ends are trimmed. -/
def squeeze (s : List Char) : List Char := joinWith [' '] (words s)

def strip (s : List Char) : List Char := s.filter (!isBlank ·)

end RouteAlerts.Text
