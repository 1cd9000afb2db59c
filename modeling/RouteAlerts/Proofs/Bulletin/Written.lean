import RouteAlerts.Proofs.Bulletin.Range
import RouteAlerts.Proofs.Text.Hangul

/-!
Bulletins as they are written: a time range, the stations of a march, an annotation between angle
brackets, and the attendance figure with a remark. Whatever is written this way, what stands behind
a range is quiet (`WrittenSlot.quiet`), so that the next range is the next thing that opens a slot.
-/

namespace RouteAlerts.Bulletin

open Text

/-! ### Phrases -/

/-- Words of Hangul, each of two syllables or more. -/
structure Phrase where
  words : List (List Char)
  nonempty : words ≠ []
  long : ∀ w ∈ words, 2 ≤ w.length
  hangul : ∀ w ∈ words, w.all isSyllable = true

namespace Phrase

variable (p : Phrase)

/-- The words with single spaces between them. -/
def text : List Char := joinWith [' '] p.words

theorem isSyllable_of_mem {w : List Char} (h : w ∈ p.words) {c : Char} (hc : c ∈ w) :
    isSyllable c = true := List.all_eq_true.mp (p.hangul w h) c hc

theorem isWord {w : List Char} (h : w ∈ p.words) : IsWord w := by
  constructor
  · rintro rfl
    exact absurd (p.long [] h) (by decide)
  · intro c hc
    exact isBlank_eq_false_of_isLetter (isLetter_of_isSyllable (p.isSyllable_of_mem h hc))

/-- A phrase holds syllables and spaces. -/
theorem mem_text {c : Char} (h : c ∈ p.text) : isSyllable c = true ∨ c = ' ' := by
  rcases mem_joinWith h with ⟨w, hw, hc⟩ | space
  · exact .inl (p.isSyllable_of_mem hw hc)
  · exact .inr (List.mem_singleton.mp space)

theorem isDigit_text {c : Char} (h : c ∈ p.text) : isDigit c = false := by
  rcases p.mem_text h with syllable | rfl
  · exact isDigit_eq_false_of_isLetter (isLetter_of_isSyllable syllable)
  · exact isDigit_eq_false_of_isBlank (by decide)

theorem text_ne_nil : p.text ≠ [] := by
  intro empty
  have words := words_joinWith fun _ hw => p.isWord hw
  rw [← text, empty] at words
  exact p.nonempty words.symm

theorem isBlank_ends : (∀ c ∈ p.text.head?, isBlank c = false) ∧
    ∀ c ∈ p.text.getLast?, isBlank c = false :=
  isBlank_ends_joinWith fun _ hw => p.isWord hw

theorem trim_text : trim p.text = p.text := trim_eq_self p.isBlank_ends.1 p.isBlank_ends.2

end Phrase

/-! ### Marches -/

/-- The stations of a march, a sign in front of all but the first. -/
structure March where
  first : List Char
  others : List (Char × List Char)
  names : ∀ p ∈ first :: others.map Prod.snd, p ≠ [] ∧ p.all isLetter = true
  signs : ∀ s ∈ others, isGlyph s.1 = true

namespace March

variable (m : March)

def places : List (List Char) := m.first :: m.others.map Prod.snd

def text : List Char := m.first ++ m.others.flatMap fun s => s.1 :: s.2

theorem isLetter_of_mem {p : List Char} (h : p ∈ m.places) {c : Char} (hc : c ∈ p) :
    isLetter c = true := List.all_eq_true.mp (m.names p h).2 c hc

theorem mem_text {c : Char} (h : c ∈ m.text) : isLetter c = true ∨ isGlyph c = true := by
  rcases List.mem_append.mp h with first | others
  · exact .inl (m.isLetter_of_mem List.mem_cons_self first)
  · obtain ⟨s, hs, hc⟩ := List.mem_flatMap.mp others
    rcases List.mem_cons.mp hc with rfl | name
    · exact .inr (m.signs s hs)
    · exact .inl (m.isLetter_of_mem (List.mem_cons_of_mem _ (List.mem_map_of_mem hs)) name)

/-- The signs of a march. -/
theorem isGlyph_iff {c : Char} : isGlyph c = true ↔ c = '→' ∨ c = '↔' ∨ c = '~' := by
  simp [isGlyph, or_assoc]

theorem isDigit_text {c : Char} (h : c ∈ m.text) : isDigit c = false := by
  rcases m.mem_text h with letter | sign
  · exact isDigit_eq_false_of_isLetter letter
  · rcases isGlyph_iff.mp sign with rfl | rfl | rfl <;> decide

theorem isWord_text : IsWord m.text := by
  constructor
  · simp [text, (m.names m.first List.mem_cons_self).1]
  · intro c hc
    rcases m.mem_text hc with letter | sign
    · exact isBlank_eq_false_of_isLetter letter
    · rcases isGlyph_iff.mp sign with rfl | rfl | rfl <;> decide

theorem clear_of_mem {p : List Char} (h : p ∈ m.places) {c : Char} (hc : c ∈ p) :
    isGlyph c = false ∧ isBlank c = false := by
  have letter := m.isLetter_of_mem h hc
  refine ⟨Bool.eq_false_iff.mpr fun sign => ?_, isBlank_eq_false_of_isLetter letter⟩
  rcases isGlyph_iff.mp sign with rfl | rfl | rfl <;> exact absurd letter (by decide)

/-- Cut at its signs, a march falls into its stations. -/
theorem splitWhere_text : splitWhere isGlyph m.text = m.places := by
  refine splitWhere_flatMap (fun c hc => (m.clear_of_mem List.mem_cons_self hc).1) fun s hs => ?_
  have place : s.2 ∈ m.places := List.mem_cons_of_mem _ (List.mem_map_of_mem hs)
  exact ⟨m.signs s hs, fun c hc => (m.clear_of_mem place hc).1⟩

theorem map_trim_places : m.places.map trim = m.places := by
  refine (List.map_congr_left fun p hp => ?_).trans (List.map_id _)
  exact trim_eq_self (fun c hc => (m.clear_of_mem hp (List.mem_of_mem_head? hc)).2)
    (fun c hc => (m.clear_of_mem hp (List.mem_of_getLast? hc)).2)

/-- A march starts with a letter. -/
theorem text_eq_cons : ∃ c rest, m.text = c :: rest ∧ isLetter c = true := by
  obtain ⟨nonempty, -⟩ := m.names m.first List.mem_cons_self
  obtain ⟨c, more, first⟩ := List.exists_cons_of_ne_nil nonempty
  exact ⟨c, _, by rw [text, first, List.cons_append],
    m.isLetter_of_mem List.mem_cons_self (by simp [first])⟩

end March

/-! ### Figures -/

/-- An attendance figure, with thousands groups or without, and the remark behind it. -/
structure Figure where
  value : Nat
  inRange : value < Headcount.bound
  grouped : Bool
  remark : Option Phrase

namespace Figure

variable (f : Figure)

def printed : List Char := if f.grouped then groupedDigits f.value else natDigits f.value

/-- What stands behind the counter. -/
def remarkText : List Char := f.remark.elim [] fun p => ' ' :: p.text

theorem number?_printed (rest : List Char) :
    number? (f.printed ++ '명' :: rest) = some (f.printed, '명' :: rest) := by
  have noDigit : ∀ c ∈ ('명' :: rest).head?, isDigit c = false := by simp; decide
  have noComma : ∀ c ∈ ('명' :: rest).head?, c ≠ ',' := by simp
  unfold printed
  split
  · exact number?_groupedDigits f.value noDigit noComma
  · exact number?_natDigits f.value noDigit noComma

theorem mem_printed {c : Char} (h : c ∈ f.printed) : isAsciiDigit c = true ∨ c = ',' := by
  unfold printed at h
  split at h
  · exact mem_groupedDigits h
  · exact .inl (isAsciiDigit_of_mem_natDigits h)

theorem exists_mem_printed : ∃ c ∈ f.printed, isAsciiDigit c = true := by
  unfold printed
  split
  · exact exists_mem_groupedDigits f.value
  · obtain ⟨c, hc⟩ := List.exists_mem_of_ne_nil _ (natDigits_ne_nil f.value)
    exact ⟨c, hc, isAsciiDigit_of_mem_natDigits hc⟩

theorem digitsToNat_printed : digitsToNat (f.printed.filter (· != ',')) = f.value := by
  unfold printed
  split
  · exact digitsToNat_groupedDigits f.value
  · rw [List.filter_eq_self.mpr fun c hc =>
      ne_comma_of_isAsciiDigit (isAsciiDigit_of_mem_natDigits hc), digitsToNat_natDigits]

/-- Thousands commas or not, the figure is read as its value. -/
theorem value?_printed : Headcount.value? f.printed = some f.value := by
  have ascii : ∀ c ∈ f.printed.filter (· != ','), isAsciiDigit c = true := by
    intro c hc
    obtain ⟨inPrinted, noComma⟩ := List.mem_filter.mp hc
    exact (f.mem_printed inPrinted).resolve_right (by simpa using noComma)
  have nonempty : f.printed.filter (· != ',') ≠ [] := by
    obtain ⟨c, hc, digit⟩ := f.exists_mem_printed
    exact List.ne_nil_of_mem (List.mem_filter.mpr ⟨hc, ne_comma_of_isAsciiDigit digit⟩)
  have below : digitsToNat (f.printed.filter (· != ',')) < Headcount.bound := by
    rw [digitsToNat_printed]
    exact f.inRange
  rw [Headcount.value?, readNat?_eq_some nonempty ascii below, digitsToNat_printed]

theorem isDigit_remarkText {c : Char} (h : c ∈ f.remarkText) : isDigit c = false := by
  unfold remarkText at h
  cases remark : f.remark with
  | none => simp [remark] at h
  | some p =>
    rw [remark] at h
    rcases List.mem_cons.mp h with rfl | word
    · decide
    · exact p.isDigit_text word

theorem trim_remarkText : trim f.remarkText = f.remark.elim [] Phrase.text := by
  unfold remarkText
  cases f.remark with
  | none => rfl
  | some p =>
    have trimmed : trim ([' '] ++ p.text ++ []) = p.text :=
      trim_append (by simp; decide) (by simp) p.isBlank_ends.1 p.isBlank_ends.2
    simpa using trimmed

theorem isBlank_last_remarkText : ∀ c ∈ f.remarkText.getLast?, isBlank c = false := by
  unfold remarkText
  cases f.remark with
  | none => simp
  | some p =>
    intro c last
    obtain ⟨d, hd⟩ := Option.ne_none_iff_exists'.mp (mt List.getLast?_eq_none_iff.mp p.text_ne_nil)
    obtain rfl : d = c := by simpa [List.getLast?_cons, hd] using last
    exact p.isBlank_ends.2 d hd

/-- No clock opens at a figure: behind its digits stands the counter. -/
theorem silent (rest : List Char) :
    Silent PrintedClock.opening? (' ' :: (f.printed ++ '명' :: f.remarkText)) rest := by
  have space : Silent PrintedClock.opening? [' '] (f.printed ++ ('명' :: f.remarkText) ++ rest) :=
    PrintedClock.silent_of_no_digit (by simp; decide)
  have counter : Silent PrintedClock.opening? ('명' :: f.remarkText) rest := by
    refine PrintedClock.silent_of_no_digit fun c hc => ?_
    rcases List.mem_cons.mp hc with rfl | remark
    · decide
    · exact f.isDigit_remarkText remark
  have number : Silent PrintedClock.opening? f.printed (('명' :: f.remarkText) ++ rest) := by
    have solid : isBlank '명' = false := by decide
    refine PrintedClock.silent_of_solid (fun c hc => ?_) (by simp; decide) (by simp [solid])
    rcases f.mem_printed hc with digit | rfl
    · exact ⟨isBlank_eq_false_of_isAsciiDigit digit, by rintro rfl; exact absurd digit (by decide)⟩
    · decide
  exact space.append (number.append counter)

end Figure

/-! ### Slots -/

/-- A slot as it is written, on a line of its own. The ending is the line break with the blanks
around it; behind the last slot there may be none. -/
structure WrittenSlot where
  range : PrintedRange
  isRange : range.IsRange
  march : March
  annotation : Option Phrase
  figure : Option Figure
  ending : List Char
  endingBlank : isAllBlank ending = true

namespace WrittenSlot

variable (s : WrittenSlot)

theorem isBlank_of_mem_ending {c : Char} (h : c ∈ s.ending) : isBlank c = true :=
  List.all_eq_true.mp s.endingBlank c h

/-- The march and the annotation. -/
def lead : List Char :=
  s.march.text ++ s.annotation.elim [] fun p => ' ' :: '<' :: (p.text ++ ['>'])

/-- The attendance figure, its counter and the remark. -/
def figureText : List Char :=
  s.figure.elim [] fun f => ' ' :: (f.printed ++ '명' :: f.remarkText)

/-- What stands behind the range. -/
def tail : List Char := ' ' :: (s.lead ++ s.figureText ++ s.ending)

def text : List Char := s.range.raw ++ s.tail

theorem isDigit_lead {c : Char} (h : c ∈ s.lead) : isDigit c = false := by
  rcases List.mem_append.mp h with march | annotation
  · exact s.march.isDigit_text march
  · cases note : s.annotation with
    | none => simp [note] at annotation
    | some p =>
      simp only [note, Option.elim_some, List.mem_cons, List.mem_append, List.not_mem_nil,
        or_false] at annotation
      rcases annotation with rfl | rfl | word | rfl
      · decide
      · decide
      · exact p.isDigit_text word
      · decide

/-- Nothing behind a range opens a clock, and it does not go on with the range. -/
theorem quiet : Quiet s.tail := by
  obtain ⟨c, more, march, letter⟩ := s.march.text_eq_cons
  -- Behind the range comes a space and then a letter: no colon and no tilde goes on from there.
  have start : ∀ rest, ∃ more, s.tail ++ rest = ' ' :: c :: more := by
    intro rest
    simp [tail, lead, march]
  constructor
  · intro rest
    have spaceLead : Silent PrintedClock.opening? (' ' :: s.lead)
        (s.figureText ++ s.ending ++ rest) := by
      refine PrintedClock.silent_of_no_digit fun c hc => ?_
      rcases List.mem_cons.mp hc with rfl | lead
      · decide
      · exact s.isDigit_lead lead
    have figure : Silent PrintedClock.opening? s.figureText (s.ending ++ rest) := by
      unfold figureText
      cases s.figure with
      | none => exact silent_nil _
      | some f => exact f.silent _
    have ending : Silent PrintedClock.opening? s.ending rest :=
      PrintedClock.silent_of_no_digit fun c hc =>
        isDigit_eq_false_of_isBlank (s.isBlank_of_mem_ending hc)
    simpa [tail] using spaceLead.append (figure.append ending)
  · intro rest
    obtain ⟨more, eq⟩ := start rest
    have first : ((' ' :: c :: more).dropWhile isBlank).head? = some c := by
      have space : isBlank ' ' = true := by decide
      simp [space, isBlank_eq_false_of_isLetter letter]
    rw [eq]
    refine ⟨by simp; decide, ?_, ?_⟩
    · rw [first]
      rintro ⟨rfl⟩
      exact absurd letter (by decide)
    · rw [first]
      rintro ⟨rfl⟩
      exact absurd letter (by decide)

end WrittenSlot

end RouteAlerts.Bulletin
