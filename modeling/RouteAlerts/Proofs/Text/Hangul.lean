import RouteAlerts.Proofs.Text.Digits
import RouteAlerts.Text.Hangul

/-!
Hangul and closing gaps. A letter is neither a blank nor a digit. Joining torn words moves nothing
but blanks, so the text without its blanks stays the same, and a text whose words all have two
characters or more is left as it is.
-/

namespace RouteAlerts.Text

/-! ### Letters -/

/-- Hangul syllables and Latin letters, what the names of places are made of. -/
def isLetter (c : Char) : Bool := isSyllable c || c.isAlpha

theorem isLetter_of_isSyllable {c : Char} (h : isSyllable c = true) : isLetter c = true := by
  rw [isLetter, h, Bool.true_or]

theorem letter_codes {c : Char} (h : isLetter c = true) :
    65 ≤ c.toNat ∧ c.toNat ≤ 122 ∨ 0xAC00 ≤ c.toNat ∧ c.toNat ≤ 0xD7A3 := by
  rcases Bool.or_eq_true_iff.mp h with syllable | alpha
  · simp only [isSyllable, Bool.and_eq_true, decide_eq_true_eq, Char.le_def,
      UInt32.le_iff_toNat_le] at syllable
    exact .inr syllable
  · rcases Bool.or_eq_true_iff.mp (show (c.isUpper || c.isLower) = true from alpha) with
      upper | lower
    · obtain ⟨low, high⟩ := of_decide_eq_true upper
      have low : 65 ≤ c.toNat := low
      have high : c.toNat ≤ 90 := high
      exact .inl ⟨low, by omega⟩
    · obtain ⟨low, high⟩ := Bool.and_eq_true_iff.mp lower
      have low : 97 ≤ c.toNat := of_decide_eq_true low
      have high : c.toNat ≤ 122 := of_decide_eq_true high
      exact .inl ⟨by omega, high⟩

theorem isBlank_eq_false_of_isLetter {c : Char} (h : isLetter c = true) : isBlank c = false := by
  have codes := letter_codes h
  simp only [isBlank, Bool.or_eq_false_iff, Bool.and_eq_false_iff, decide_eq_false_iff_not,
    beq_eq_false_iff_ne]
  omega

/-- No block of digits lies among the letters. -/
theorem isDigit_eq_false_of_isLetter {c : Char} (h : isLetter c = true) : isDigit c = false := by
  have codes := letter_codes h
  have blocks : ∀ z ∈ zeros, z + 9 < 65 ∨ 122 < z ∧ z + 9 < 0xAC00 ∨ 0xD7A3 < z := by
    decide +kernel
  refine Bool.eq_false_iff.mpr fun digit => ?_
  rw [isDigit, digitValue?, Option.isSome_map, List.find?_isSome] at digit
  obtain ⟨block, hblock, inBlock⟩ := digit
  simp only [Bool.and_eq_true, decide_eq_true_eq] at inBlock
  have apart := blocks block hblock
  omega

/-! ### Torn words -/

/-- Words are joined, never changed. -/
theorem flatten_joinSyllables (ws : List (List Char)) :
    (joinSyllables ws).flatten = ws.flatten := by
  fun_induction joinSyllables ws with
  | case1 => rfl
  | case2 w ws lone run rest short ih =>
    rw [List.flatten_cons, ih, List.flatten_cons, List.flatten_cons, List.append_assoc,
      ← List.flatten_append, List.takeWhile_append_dropWhile]
  | case3 w ws lone run rest long ih =>
    rw [List.flatten_append, ih, List.flatten_cons, List.flatten_cons, List.append_assoc,
      ← List.flatten_append, List.takeWhile_append_dropWhile]
  | case4 w ws longer ih => rw [List.flatten_cons, ih, List.flatten_cons]

@[simp] theorem strip_closeGaps (s : List Char) : strip (closeGaps s) = strip s := by
  rw [closeGaps, strip_joinWith, flatten_joinSyllables, flatten_words, strip_strip]

/-- Only a text without words is left empty. -/
theorem closeGaps_eq_nil_iff {s : List Char} : closeGaps s = [] ↔ strip s = [] := by
  constructor
  · intro h
    rw [← strip_closeGaps, h, strip_nil]
  · intro h
    rw [closeGaps, words_eq_nil_iff.mpr h, joinSyllables, joinWith]

theorem joinSyllables_eq_self {ws : List (List Char)} (h : ∀ w ∈ ws, 2 ≤ w.length) :
    joinSyllables ws = ws := by
  induction ws with
  | nil => simp [joinSyllables]
  | cons w ws ih =>
    have long : isLoneSyllable w = false := by
      have length := h w List.mem_cons_self
      unfold isLoneSyllable
      split
      · simp at length
      · rfl
    rw [joinSyllables, long, ih fun v hv => h v (List.mem_cons_of_mem _ hv)]
    rfl

/-- Words of two characters or more are not torn. -/
theorem closeGaps_eq_squeeze {s : List Char} (h : ∀ w ∈ words s, 2 ≤ w.length) :
    closeGaps s = squeeze s := by
  rw [closeGaps, joinSyllables_eq_self h, squeeze]

end RouteAlerts.Text
