import Mathlib.Data.List.Chain
import Mathlib.Data.List.Infix
import Mathlib.Data.List.TakeWhile
import RouteAlerts.Proofs.Text.Blank

/-!
Pieces of a text. What a text is cut into, and what is left of a piece when it is trimmed, stands in
the text as it is; so a piece of a squeezed text has single spaces and no other blanks. Such pieces,
when they hold something and none of the signs that the text was cut at, are called tidy.
-/

namespace RouteAlerts.Text

/-! ### Trimmed pieces -/

theorem trim_infix (s : List Char) : trim s <:+: s := by
  obtain ⟨front, back, -, -, split⟩ := exists_trim s
  exact ⟨front, back, split.symm⟩

/-- Dropping stops at an element that does not satisfy the test. -/
theorem head_dropWhile {α : Type} {p : α → Bool} {s : List α} :
    ∀ c ∈ (s.dropWhile p).head?, p c = false := by
  intro c head
  have stopped := List.head?_dropWhile_not p s
  rw [Option.mem_def.mp head] at stopped
  simpa using stopped

theorem isBlank_head_trimStart (s : List Char) : ∀ c ∈ (trimStart s).head?, isBlank c = false :=
  head_dropWhile

theorem trimStart_trimStart (s : List Char) : trimStart (trimStart s) = trimStart s :=
  dropWhile_eq_self (isBlank_head_trimStart s)

theorem trimStart_cons_of_blank {c : Char} (h : isBlank c = true) (s : List Char) :
    trimStart (c :: s) = trimStart s :=
  List.dropWhile_cons_of_pos h

theorem trimStart_cons_of_solid {c : Char} (h : isBlank c = false) (s : List Char) :
    trimStart (c :: s) = c :: s :=
  List.dropWhile_cons_of_neg (by simp [h])

theorem trimStart_eq_nil_iff {s : List Char} : trimStart s = [] ↔ ∀ c ∈ s, isBlank c = true :=
  List.dropWhile_eq_nil_iff

/-- The blanks in front of a text, and the text behind them. -/
theorem exists_trimStart (s : List Char) :
    ∃ front, (∀ c ∈ front, isBlank c = true) ∧ s = front ++ trimStart s :=
  ⟨s.takeWhile isBlank, List.all_eq_true.mp List.all_takeWhile,
    List.takeWhile_append_dropWhile.symm⟩

/-- What a look behind blanks finds stands behind blanks. -/
theorem exists_of_trimStart {s t : List Char} (h : trimStart s = t) :
    ∃ gap, (∀ c ∈ gap, isBlank c = true) ∧ s = gap ++ t := by
  obtain ⟨gap, blank, split⟩ := exists_trimStart s
  exact ⟨gap, blank, h ▸ split⟩

theorem isBlank_last_trim (s : List Char) : ∀ c ∈ (trim s).getLast?, isBlank c = false := by
  rw [trim, trimEnd, dropEndWhile, List.getLast?_reverse]
  exact head_dropWhile

theorem isBlank_head_trim (s : List Char) : ∀ c ∈ (trim s).head?, isBlank c = false := by
  intro c head
  have front : trim s ++ ((trimStart s).reverse.takeWhile isBlank).reverse = trimStart s := by
    rw [trim, trimEnd, dropEndWhile, ← List.reverse_append, List.takeWhile_append_dropWhile,
      List.reverse_reverse]
  apply head_dropWhile (s := s)
  change c ∈ (trimStart s).head?
  rw [← front, List.head?_append, Option.mem_def.mp head]
  rfl

@[simp] theorem trim_trim (s : List Char) : trim (trim s) = trim s :=
  trim_eq_self (isBlank_head_trim s) (isBlank_last_trim s)

/-- Nothing but blanks is trimmed to nothing. -/
theorem trim_eq_nil_iff {s : List Char} : trim s = [] ↔ ∀ c ∈ s, isBlank c = true := by
  constructor
  · intro empty
    rw [← strip_eq_nil_iff, ← strip_trim, empty, strip_nil]
  · intro blank
    by_contra named
    obtain ⟨c, rest, split⟩ := List.exists_cons_of_ne_nil named
    have front : isBlank c = false := isBlank_head_trim s c (by simp [split])
    have inside : trim s <:+: s := trim_infix s
    have member : c ∈ s := inside.subset (by simp [split])
    simp [blank c member] at front

/-! ### Pieces between signs -/

/-- The first piece goes up to the first sign. -/
theorem head?_splitWhere {α : Type} (p : α → Bool) (s : List α) :
    (splitWhere p s).head? = some (s.takeWhile (!p ·)) := by
  induction s with
  | nil => rfl
  | cons c s ih =>
    rw [splitWhere]
    by_cases sign : p c = true
    · simp [sign]
    · obtain ⟨first, others, pieces⟩ := List.exists_cons_of_ne_nil (splitWhere_ne_nil p s)
      rw [pieces, List.head?_cons, Option.some_inj] at ih
      simp [sign, pieces, ih]

/-- A piece stands in the text that was cut, and holds none of the signs. -/
theorem of_mem_splitWhere {α : Type} {p : α → Bool} {s piece : List α}
    (h : piece ∈ splitWhere p s) : piece <:+: s ∧ ∀ c ∈ piece, p c = false := by
  induction s generalizing piece with
  | nil =>
    obtain rfl := List.mem_singleton.mp h
    exact ⟨List.infix_refl [], by simp⟩
  | cons c s ih =>
    rw [splitWhere] at h
    by_cases sign : p c = true
    · rw [if_pos sign] at h
      rcases List.mem_cons.mp h with rfl | later
      · exact ⟨⟨[], c :: s, rfl⟩, by simp⟩
      · obtain ⟨stands, clear⟩ := ih later
        exact ⟨stands.trans (List.suffix_cons c s).isInfix, clear⟩
    · rw [if_neg sign] at h
      obtain ⟨first, others, pieces⟩ := List.exists_cons_of_ne_nil (splitWhere_ne_nil p s)
      rw [pieces] at h ih
      rcases List.mem_cons.mp h with rfl | later
      · -- The first piece goes on from the front of the text.
        have front := head?_splitWhere p s
        rw [pieces, List.head?_cons, Option.some_inj] at front
        have own := (ih List.mem_cons_self).2
        constructor
        · rw [front]
          exact (List.cons_prefix_cons.mpr ⟨rfl, List.takeWhile_prefix _⟩).isInfix
        · intro d hd
          rcases List.mem_cons.mp hd with rfl | inFirst
          · exact Bool.eq_false_iff.mpr sign
          · exact own d inFirst
      · obtain ⟨stands, clear⟩ := ih (List.mem_cons_of_mem _ later)
        exact ⟨stands.trans (List.suffix_cons c s).isInfix, clear⟩

/-! ### The last sign -/

/-- Behind the last sign there is none. -/
theorem splitLast_eq_none {p : Char → Bool} {s : List Char} (h : splitLast p s = none) :
    ∀ c ∈ s, p c = false := by
  induction s with
  | nil => simp
  | cons d s ih =>
    rw [splitLast] at h
    split at h
    · cases h
    · rename_i rest
      rw [ite_eq_right_iff] at h
      intro c hc
      rcases List.mem_cons.mp hc with rfl | later
      · exact Bool.eq_false_iff.mpr fun sign => Option.some_ne_none _ (h sign)
      · exact ih rest c later

theorem splitLast_eq_some {p : Char → Bool} {s front back : List Char}
    (h : splitLast p s = some (front, back)) :
    ∃ c, p c = true ∧ s = front ++ c :: back ∧ ∀ d ∈ back, p d = false := by
  induction s generalizing front with
  | nil => cases h
  | cons d s ih =>
    rw [splitLast] at h
    split at h
    · rename_i before behind later
      obtain ⟨rfl, rfl⟩ := Prod.mk.inj (Option.some.inj h)
      obtain ⟨c, sign, rfl, clear⟩ := ih later
      exact ⟨c, sign, rfl, clear⟩
    · rename_i none
      obtain ⟨sign, eq⟩ := Option.ite_none_right_eq_some.mp h
      obtain ⟨rfl, rfl⟩ := Prod.mk.inj (Option.some.inj eq)
      exact ⟨d, sign, rfl, splitLast_eq_none none⟩

/-- A text is cut at a sign with none behind it. -/
theorem splitLast_append {p : Char → Bool} {c : Char} (sign : p c = true) (front : List Char)
    {back : List Char} (clear : ∀ d ∈ back, p d = false) :
    splitLast p (front ++ c :: back) = some (front, back) := by
  induction front with
  | nil =>
    cases later : splitLast p back with
    | none => simp [splitLast, later, sign]
    | some parts =>
      obtain ⟨d, isSign, split, -⟩ := splitLast_eq_some (show _ = some (parts.1, parts.2) from later)
      rw [clear d (by simp [split])] at isSign
      cases isSign
  | cons d front ih => simp [splitLast, ih]

/-! ### Squeezed texts -/

theorem isWord_of_mem_words {s w : List Char} (h : w ∈ words s) : IsWord w := by
  obtain ⟨piece, nonempty⟩ := List.mem_filter.mp h
  constructor
  · simpa using nonempty
  · exact (of_mem_splitWhere piece).2

/-- A text that is not blank starts, behind its blanks, with its first word. -/
theorem exists_first_word {s : List Char} (h : strip s ≠ []) :
    ∃ w rest, trimStart s = w ++ rest ∧ IsWord w ∧ (∀ c ∈ rest.head?, isBlank c = true) ∧
      words s = w :: words rest := by
  obtain ⟨front, frontBlank, split⟩ := exists_trimStart s
  have same : words s = words (trimStart s) := by
    rw [split, words_blank_append frontBlank, ← split]
  obtain ⟨c, t, behind⟩ := List.exists_cons_of_ne_nil (mt trimStart_eq_nil_iff.mp
    (mt strip_eq_nil_iff.mpr h))
  have solid : isBlank c = false := isBlank_head_trimStart s c (by simp [behind])
  have isWord : IsWord ((c :: t).takeWhile (!isBlank ·)) := by
    constructor
    · simp [solid]
    · intro d hd
      simpa using List.all_eq_true.mp List.all_takeWhile d hd
  have stop : ∀ d ∈ ((c :: t).dropWhile (!isBlank ·)).head?, isBlank d = true := by
    intro d hd
    simpa using head_dropWhile d hd
  have whole : (c :: t).takeWhile (!isBlank ·) ++ (c :: t).dropWhile (!isBlank ·) = c :: t :=
    List.takeWhile_append_dropWhile
  refine ⟨_, _, by rw [behind, whole], isWord, stop, ?_⟩
  rw [← words_word_append isWord stop, whole, same, behind]

/-- A squeezed text has spaces, and characters of the text that are not blank. -/
theorem mem_squeeze {s : List Char} {c : Char} (h : c ∈ squeeze s) :
    c = ' ' ∨ c ∈ s ∧ isBlank c = false := by
  rcases mem_joinWith h with ⟨w, hw, hc⟩ | space
  · obtain ⟨piece, -⟩ := List.mem_filter.mp hw
    obtain ⟨stands, solid⟩ := of_mem_splitWhere piece
    exact .inr ⟨stands.subset hc, solid c hc⟩
  · exact .inl (List.mem_singleton.mp space)

/-- The only blanks of a squeezed text are spaces. -/
theorem eq_space_of_mem_squeeze {s : List Char} {c : Char} (h : c ∈ squeeze s)
    (blank : isBlank c = true) : c = ' ' := by
  rcases mem_squeeze h with space | ⟨-, solid⟩
  · exact space
  · rw [solid] at blank
    cases blank

theorem squeeze_squeeze (s : List Char) : squeeze (squeeze s) = squeeze s :=
  squeeze_joinWith fun _ => isWord_of_mem_words

theorem trim_squeeze (s : List Char) : trim (squeeze s) = squeeze s := by
  have ends := isBlank_ends_joinWith fun w => isWord_of_mem_words (s := s)
  exact trim_eq_self ends.1 ends.2

def NotBothSpace (a b : Char) : Prop := ¬ (a = ' ' ∧ b = ' ')

theorem isChain_joinWith {ws : List (List Char)} (h : ∀ w ∈ ws, IsWord w) :
    List.IsChain NotBothSpace (joinWith [' '] ws) := by
  induction ws with
  | nil => exact .nil
  | cons w ws ih =>
    obtain ⟨nonempty, solid⟩ := h w List.mem_cons_self
    have own : List.IsChain NotBothSpace w := by
      refine List.Pairwise.isChain (List.pairwise_of_forall_mem_list fun a ha b _ both => ?_)
      have clear := solid a ha
      rw [both.1] at clear
      cases clear
    cases ws with
    | nil => exact own
    | cons v ws =>
      -- The joining space stands between the last letter of one word and the first of the next.
      have words : ∀ u ∈ v :: ws, IsWord u := fun u hu => h u (List.mem_cons_of_mem _ hu)
      have rest := ih words
      have head := (isBlank_ends_joinWith words).1
      rw [joinWith, List.append_assoc]
      · have spaced : List.IsChain NotBothSpace (' ' :: joinWith [' '] (v :: ws)) := by
          refine List.isChain_cons.mpr ⟨fun c hc both => ?_, rest⟩
          have clear := head c hc
          rw [both.2] at clear
          cases clear
        refine List.isChain_append.mpr ⟨own, spaced, fun a ha b _ both => ?_⟩
        have clear := solid a (List.mem_of_getLast? ha)
        rw [both.1] at clear
        cases clear
      · simp

/-- No two spaces stand side by side in a squeezed text. -/
theorem not_double_space_squeeze (s : List Char) : ¬ [' ', ' '] <:+: squeeze s := by
  intro double
  have chain := isChain_joinWith fun w => isWord_of_mem_words (s := s)
  have spaces := List.IsChain.infix chain double
  simp [NotBothSpace] at spaces

/-! ### Tidy pieces -/

/-- A piece as it is left by cutting a squeezed text at some signs: it holds something, is trimmed,
stands on one line with single spaces, and has none of the signs. -/
structure IsTidy (isSign : Char → Bool) (s : List Char) : Prop where
  nonempty : s ≠ []
  trimmed : trim s = s
  space : ∀ c ∈ s, isBlank c = true → c = ' '
  single : ¬ [' ', ' '] <:+: s
  unsigned : ∀ c ∈ s, isSign c = false

instance (isSign : Char → Bool) (s : List Char) : Decidable (IsTidy isSign s) :=
  -- The characters of the text are asked, not all that there are, of which there also is a list.
  decidable_of_iff (s ≠ [] ∧ trim s = s ∧ s.all (fun c => decide (isBlank c = true → c = ' ')) ∧
      ¬ [' ', ' '] <:+: s ∧ s.all fun c => decide (isSign c = false)) <| by
    simp only [List.all_eq_true, decide_eq_true_eq]
    exact ⟨fun ⟨a, b, c, d, e⟩ => ⟨a, b, c, d, e⟩, fun h => ⟨h.1, h.2, h.3, h.4, h.5⟩⟩

theorem isTidy_of_mem_splitWhere {isSign : Char → Bool} {s piece : List Char}
    (h : piece ∈ splitWhere isSign (squeeze s)) (nonempty : trim piece ≠ []) :
    IsTidy isSign (trim piece) := by
  obtain ⟨stands, clear⟩ := of_mem_splitWhere h
  have inPiece := trim_infix piece
  have inText := inPiece.trans stands
  constructor
  · exact nonempty
  · exact trim_trim piece
  · intro c hc blank
    exact eq_space_of_mem_squeeze (inText.subset hc) blank
  · intro double
    exact not_double_space_squeeze s (double.trans inText)
  · intro c hc
    exact clear c (inPiece.subset hc)

end RouteAlerts.Text
