import RouteAlerts.Proofs.Text.Piece

/-!
Cutting and squeezing. A text is squeezed part by part, with blanks left between the parts or none
(`squeeze_append`). So where it is cut at signs that are no blanks it does not matter whether it was
squeezed before: the pieces of the squeezed text, without blanks at their ends, are the squeezed
pieces of the text (`map_trim_splitWhere_squeeze`).
-/

namespace RouteAlerts.Text

/-! ### Squeezed character by character -/

theorem squeeze_blank_append {front : List Char} (h : ∀ c ∈ front, isBlank c = true)
    (s : List Char) : squeeze (front ++ s) = squeeze s := by
  rw [squeeze, words_blank_append h, squeeze]

theorem squeeze_append_blank {back : List Char} (h : ∀ c ∈ back, isBlank c = true)
    (s : List Char) : squeeze (s ++ back) = squeeze s := by
  rw [squeeze, words_append_blank h, squeeze]

/-- Nothing but blanks is squeezed to nothing. -/
theorem squeeze_eq_nil_iff {s : List Char} : squeeze s = [] ↔ words s = [] := by
  constructor
  · intro empty
    rw [words_eq_nil_iff, ← strip_squeeze, empty, strip_nil]
  · intro none
    rw [squeeze, none, joinWith]

/-- What is left, behind a word, of the blanks in front of a text: a space, if a word follows. -/
def spaceBefore (s : List Char) : List Char :=
  if s.head?.any isBlank = true ∧ squeeze s ≠ [] then [' '] else []

theorem isBlank_spaceBefore (s : List Char) : ∀ c ∈ spaceBefore s, isBlank c = true := by
  intro c hc
  unfold spaceBefore at hc
  split at hc
  · rw [List.mem_singleton.mp hc]
    decide
  · cases hc

theorem squeeze_cons {c : Char} (hc : isBlank c = false) (s : List Char) :
    squeeze (c :: s) = c :: (spaceBefore s ++ squeeze s) := by
  by_cases stop : ∀ d ∈ s.head?, isBlank d = true
  · have word : IsWord [c] := ⟨List.cons_ne_nil c [], by simpa using hc⟩
    have first : words (c :: s) = [c] :: words s := words_word_append word stop
    rw [squeeze, first, spaceBefore]
    simp only [ne_eq, squeeze_eq_nil_iff]
    cases others : words s with
    | nil => simp [squeeze, others, joinWith]
    | cons w ws =>
      have front : s.head?.any isBlank = true := by
        cases s with
        | nil => cases others
        | cons d s => exact stop d rfl
      rw [if_pos ⟨front, List.cons_ne_nil w ws⟩, squeeze, others]
      rfl
  · -- The text goes on inside of a word.
    obtain ⟨d, head, solid⟩ : ∃ d, s.head? = some d ∧ isBlank d = false := by simpa using stop
    have inside : strip s ≠ [] := by
      rw [Ne, strip_eq_nil_iff]
      intro blank
      rw [blank d (List.mem_of_mem_head? head)] at solid
      cases solid
    obtain ⟨w, rest, split, isWord, stop, behind⟩ := exists_first_word inside
    have front : trimStart s = s := dropWhile_eq_self (by simp [head, solid])
    rw [front] at split
    have longer : IsWord (c :: w) := ⟨List.cons_ne_nil c w, by simpa using ⟨hc, isWord.2⟩⟩
    have first : words (c :: s) = (c :: w) :: words rest := by
      rw [split, ← List.cons_append, words_word_append longer stop]
    rw [spaceBefore, if_neg (by simp [head, solid]), List.nil_append, squeeze, first, squeeze,
      behind]
    cases words rest <;> rfl

/-- A text is squeezed part by part, with blanks left between the parts or none. -/
theorem squeeze_append (s t : List Char) : ∃ gap, (∀ c ∈ gap, isBlank c = true) ∧
    squeeze (s ++ t) = squeeze s ++ (gap ++ squeeze t) := by
  induction s with
  | nil => exact ⟨[], by simp, rfl⟩
  | cons c s ih =>
    obtain ⟨gap, blank, split⟩ := ih
    by_cases hc : isBlank c = true
    · have skips (u : List Char) : squeeze (c :: u) = squeeze u :=
        @squeeze_blank_append [c] (by simpa using hc) u
      exact ⟨gap, blank, by rw [List.cons_append, skips, skips, split]⟩
    · have solid : isBlank c = false := by simpa using hc
      rw [List.cons_append, squeeze_cons solid, squeeze_cons solid, split]
      by_cases last : squeeze s = []
      · -- The blanks behind the last word of the first part stand in front of the second one.
        refine ⟨spaceBefore (s ++ t) ++ gap, ?_, by simp [spaceBefore, last]⟩
        intro d hd
        rcases List.mem_append.mp hd with inSpace | inGap
        · exact isBlank_spaceBefore _ d inSpace
        · exact blank d inGap
      · have same : spaceBefore (s ++ t) = spaceBefore s := by
          cases s with
          | nil => exact absurd rfl last
          | cons d s =>
            have more : squeeze (d :: (s ++ t)) ≠ [] := by
              rw [← List.cons_append, split]
              simp [last]
            simp [spaceBefore, last, more]
        exact ⟨gap, blank, by rw [same]; simp⟩

/-! ### Pieces -/

section Pieces

variable {p : Char → Bool}

/-- A text has no sign at all, or falls into a piece, a sign and the text behind it. -/
theorem pieces_induction {α : Type} {p : α → Bool} {P : List α → Prop}
    (clear : ∀ s, (∀ c ∈ s, p c = false) → P s)
    (sign : ∀ first c rest, (∀ d ∈ first, p d = false) → p c = true → P rest →
      P (first ++ c :: rest)) (s : List α) : P s := by
  induction h : s.length using Nat.strong_induction_on generalizing s with
  | _ n ih =>
    subst h
    have own : ∀ c ∈ s.takeWhile (!p ·), p c = false := by
      intro c hc
      simpa using List.mem_takeWhile_imp hc
    have split : s.takeWhile (!p ·) ++ s.dropWhile (!p ·) = s := List.takeWhile_append_dropWhile
    cases behind : s.dropWhile (!p ·) with
    | nil =>
      rw [behind, List.append_nil] at split
      rw [← split]
      exact clear _ own
    | cons c rest =>
      have isSign : p c = true := by
        simpa [behind] using @head_dropWhile _ (!p ·) s
      have shorter : rest.length < s.length := by
        rw [← split, behind, List.length_append, List.length_cons]
        omega
      rw [behind] at split
      rw [← split]
      exact sign _ c rest own isSign (ih _ shorter rest rfl)

/-- What has no sign belongs to the first piece. -/
theorem splitWhere_clear_append {α : Type} {p : α → Bool} {front : List α}
    (clear : ∀ c ∈ front, p c = false) {s first : List α} {others : List (List α)}
    (pieces : splitWhere p s = first :: others) :
    splitWhere p (front ++ s) = (front ++ first) :: others := by
  induction front with
  | nil => exact pieces
  | cons c front ih =>
    have rest := ih fun d hd => clear d (List.mem_cons_of_mem c hd)
    rw [List.cons_append, splitWhere, clear c List.mem_cons_self, rest]
    rfl

/-- To a look that passes over blanks in front, a text that starts with some falls into the same
pieces. -/
theorem map_splitWhere_blank_append {β : Type} {f : List Char → β} {front : List Char}
    (skips : ∀ s, f (front ++ s) = f s) (clear : ∀ c ∈ front, p c = false) (s : List Char) :
    (splitWhere p (front ++ s)).map f = (splitWhere p s).map f := by
  obtain ⟨first, others, pieces⟩ := List.exists_cons_of_ne_nil (splitWhere_ne_nil p s)
  rw [splitWhere_clear_append clear pieces, pieces, List.map_cons, List.map_cons, skips]

theorem trim_blank_append {front : List Char} (h : ∀ c ∈ front, isBlank c = true)
    (s : List Char) : trim (front ++ s) = trim s := by
  rw [trim, trimStart, List.dropWhile_append_of_pos h, trim, trimStart]

/-- To cut a squeezed text and to trim the pieces is to cut the text and to squeeze them. -/
theorem map_trim_splitWhere_squeeze (solid : ∀ c, p c = true → isBlank c = false)
    (s : List Char) : (splitWhere p (squeeze s)).map trim = (splitWhere p s).map squeeze := by
  have plain : ∀ c, isBlank c = true → p c = false := fun c blank =>
    Bool.eq_false_iff.mpr fun sign => by simp [solid c sign] at blank
  have kept : ∀ s, (∀ c ∈ s, p c = false) → ∀ c ∈ squeeze s, p c = false := by
    intro s clear c hc
    rcases mem_squeeze hc with rfl | ⟨inText, -⟩
    · exact plain ' ' (by decide)
    · exact clear c inText
  induction s using pieces_induction (p := p) with
  | clear s clear =>
    rw [splitWhere_eq_singleton clear, splitWhere_eq_singleton (kept s clear), List.map_singleton,
      List.map_singleton, trim_squeeze]
  | sign first c rest clear sign ih =>
    have isSolid : isBlank c = false := solid c sign
    obtain ⟨gap, blank, split⟩ := squeeze_append first (c :: rest)
    have before : ∀ d ∈ squeeze first ++ gap, p d = false := by
      intro d hd
      rcases List.mem_append.mp hd with inFirst | inGap
      · exact kept first clear d inFirst
      · exact plain d (blank d inGap)
    -- The blanks in front of a sign stay behind as one space, which the trimming takes away.
    have own : trim (squeeze first ++ gap) = squeeze first := by
      have ends := isBlank_ends_joinWith fun w => isWord_of_mem_words (s := first)
      exact @trim_append [] _ _ (by simp) blank ends.1 ends.2
    have after := isBlank_spaceBefore rest
    rw [split, squeeze_cons isSolid, ← List.append_assoc, splitWhere_append sign,
      splitWhere_eq_singleton before, List.map_append,
      map_splitWhere_blank_append (trim_blank_append after) (fun d hd => plain d (after d hd)), ih,
      List.map_singleton, own, splitWhere_append sign, splitWhere_eq_singleton clear,
      List.map_append, List.map_singleton]

end Pieces

end RouteAlerts.Text
