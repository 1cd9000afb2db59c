import RouteAlerts.Text.Blank

/-!
Hangul syllables, and the repair of words whose syllables were torn apart by blanks.
-/

namespace RouteAlerts.Text

def isSyllable (c : Char) : Bool := '가' ≤ c && c ≤ '힣'

/-- Whether a text has a Hangul syllable or a Latin letter in it. -/
def hasLetter (s : List Char) : Bool := s.any fun c => isSyllable c || c.isAlpha

/-- Whether a word is a single Hangul syllable. -/
def isLoneSyllable : List Char → Bool
  | [c] => isSyllable c
  | _ => false

/-- Joins each maximal run of two to five lone syllables into one word; longer runs stay. -/
def joinSyllables : List (List Char) → List (List Char)
  | [] => []
  | w :: ws =>
    if isLoneSyllable w then
      let run := w :: ws.takeWhile isLoneSyllable
      let rest := joinSyllables (ws.dropWhile isLoneSyllable)
      if 2 ≤ run.length ∧ run.length ≤ 5 then run.flatten :: rest else run ++ rest
    else w :: joinSyllables ws
termination_by ws => ws.length
decreasing_by
  · have := (List.dropWhile_suffix isLoneSyllable (l := ws)).length_le
    simp only [List.length_cons]
    omega
  · simp

/-- The words of a text with torn words joined, one space between neighbours. -/
def closeGaps (s : List Char) : List Char := joinWith [' '] (joinSyllables (words s))

end RouteAlerts.Text
