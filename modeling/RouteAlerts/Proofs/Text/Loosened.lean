import RouteAlerts.Proofs.Text.SqueezedPieces

/-!
Where the parts of a squeezed text come from. A text is its squeezed form with a run of blanks for
every space, and blanks at its ends (`exists_loosened`). So what stands in the squeezed form stands
in the text, with other blanks in it or with none where it has none (`exists_of_squeeze_eq_append`).
Texts in a row with blanks between them or none (`Gapped`) are such texts afterwards and before.
-/

namespace RouteAlerts.Text

/-- A text with a run of blanks wherever another has a blank. -/
inductive Loosened : List Char → List Char → Prop where
  | nil : Loosened [] []
  | solid {c : Char} {s t : List Char} (hc : isBlank c = false) (h : Loosened s t) :
      Loosened (c :: s) (c :: t)
  | blanks {c d : Char} {run s t : List Char} (hc : isBlank c = true) (hd : isBlank d = true)
      (all : ∀ e ∈ run, isBlank e = true) (h : Loosened s t) :
      Loosened (c :: s) (d :: (run ++ t))

namespace Loosened

theorem exists_append {s s' t : List Char} (h : Loosened (s ++ s') t) :
    ∃ u u', t = u ++ u' ∧ Loosened s u ∧ Loosened s' u' := by
  induction s generalizing t with
  | nil => exact ⟨[], t, rfl, .nil, h⟩
  | cons c s ih =>
    cases h with
    | solid hc h =>
      obtain ⟨u, u', rfl, own, behind⟩ := ih h
      exact ⟨c :: u, u', rfl, .solid hc own, behind⟩
    | @blanks _ d run _ _ hc hd all h =>
      obtain ⟨u, u', rfl, own, behind⟩ := ih h
      exact ⟨d :: (run ++ u), u', by simp, .blanks hc hd all own, behind⟩

/-- What has no blanks stays as it is. -/
theorem eq_of_solid {s t : List Char} (solid : ∀ c ∈ s, isBlank c = false) (h : Loosened s t) :
    t = s := by
  induction h with
  | nil => rfl
  | solid _ _ ih =>
    rw [ih fun c hc => solid c (List.mem_cons_of_mem _ hc)]
  | blanks hc =>
    rw [solid _ List.mem_cons_self] at hc
    cases hc

theorem isBlank_of_blank {s t : List Char} (blank : ∀ c ∈ s, isBlank c = true)
    (h : Loosened s t) : ∀ c ∈ t, isBlank c = true := by
  induction h with
  | nil => exact blank
  | solid hc =>
    rw [blank _ List.mem_cons_self] at hc
    cases hc
  | blanks _ hd all _ ih =>
    intro c hc
    rcases List.mem_cons.mp hc with rfl | behind
    · exact hd
    · rcases List.mem_append.mp behind with own | behind
      · exact all c own
      · exact ih (fun e he => blank e (List.mem_cons_of_mem _ he)) c behind

end Loosened

/-- A text that does not end with a blank, with what is left of the blanks in front of it. -/
theorem loosened_spaceBefore {s : List Char} (last : ∀ c ∈ s.getLast?, isBlank c = false) :
    Loosened (spaceBefore s ++ squeeze s) s := by
  induction s with
  | nil => exact .nil
  | cons c s ih =>
    have last' : ∀ d ∈ s.getLast?, isBlank d = false := by
      intro d hd
      refine last d ?_
      rw [List.getLast?_cons, Option.mem_def.mp hd]
      rfl
    by_cases hc : isBlank c = true
    · have skips : squeeze (c :: s) = squeeze s := @squeeze_blank_append [c] (by simpa using hc) s
      -- The text ends with something solid, so these blanks stand between words.
      have more : squeeze s ≠ [] := by
        rw [← skips, Ne, squeeze_eq_nil_iff, words_eq_nil_iff, strip_eq_nil_iff]
        intro blank
        obtain ⟨d, hd⟩ := Option.ne_none_iff_exists'.mp
          (mt List.getLast?_eq_none_iff.mp (List.cons_ne_nil c s))
        exact absurd (blank d (List.mem_of_getLast? hd)) (by simp [last d hd])
      have space : spaceBefore (c :: s) = [' '] := by simp [spaceBefore, hc, skips, more]
      rw [space, skips]
      have own := ih last'
      -- The run that begins here may go on with the run that the induction met.
      by_cases front : s.head?.any isBlank = true
      · rw [spaceBefore, if_pos ⟨front, more⟩] at own
        cases own with
        | solid hc' => exact absurd hc' (by decide)
        | @blanks _ d run _ _ _ hd all h =>
          exact @Loosened.blanks ' ' c (d :: run) _ _ (by decide) hc (by simpa using ⟨hd, all⟩) h
      · rw [spaceBefore, if_neg (by simp [front])] at own
        exact @Loosened.blanks ' ' c [] _ _ (by decide) hc (by simp) own
    · have solid : isBlank c = false := by simpa using hc
      have none : spaceBefore (c :: s) = [] := by simp [spaceBefore, solid]
      rw [none, squeeze_cons solid]
      exact .solid solid (ih last')

/-- A text is its squeezed form with runs of blanks for its spaces, and blanks at the ends. -/
theorem exists_loosened (s : List Char) :
    ∃ front text back, (∀ c ∈ front, isBlank c = true) ∧ (∀ c ∈ back, isBlank c = true) ∧
      s = front ++ text ++ back ∧ Loosened (squeeze s) text := by
  obtain ⟨front, back, frontBlank, backBlank, split⟩ := exists_trim s
  refine ⟨front, trim s, back, frontBlank, backBlank, split, ?_⟩
  have same : squeeze s = squeeze (trim s) := by
    rw [split, squeeze_append_blank backBlank, squeeze_blank_append frontBlank, ← split]
  have none : spaceBefore (trim s) = [] := by
    rw [spaceBefore, if_neg]
    rintro ⟨front, -⟩
    obtain ⟨c, head, blank⟩ := (Option.any_eq_true _ _).mp front
    rw [isBlank_head_trim s c head] at blank
    cases blank
  have own := loosened_spaceBefore (isBlank_last_trim s)
  rwa [none, List.nil_append, ← same] at own

/-- What stands in a squeezed text stands in the text, with runs of blanks for its spaces. -/
theorem exists_of_squeeze_eq_append {s front part back : List Char}
    (split : squeeze s = front ++ (part ++ back)) :
    ∃ front' part' back', s = front' ++ (part' ++ back') ∧ Loosened part part' := by
  obtain ⟨before, text, behind, -, -, rfl, loosened⟩ := exists_loosened s
  rw [split] at loosened
  obtain ⟨front', rest, rfl, -, loosened⟩ := loosened.exists_append
  obtain ⟨part', back', rfl, own, -⟩ := loosened.exists_append
  exact ⟨before ++ front', part', back' ++ behind, by simp, own⟩

/-! ### Texts in a row -/

/-- Texts in a row, with blanks in front of each or none. -/
inductive Gapped : List (List Char) → List Char → Prop where
  | nil : Gapped [] []
  | cons {gap w t : List Char} {ws : List (List Char)} (blank : ∀ c ∈ gap, isBlank c = true)
      (h : Gapped ws t) : Gapped (w :: ws) (gap ++ (w ++ t))

theorem gapped_nil_iff {t : List Char} : Gapped [] t ↔ t = [] := by
  constructor
  · rintro ⟨⟩
    rfl
  · rintro rfl
    exact .nil

theorem gapped_cons_iff {w t : List Char} {ws : List (List Char)} : Gapped (w :: ws) t ↔
    ∃ gap t', (∀ c ∈ gap, isBlank c = true) ∧ t = gap ++ (w ++ t') ∧ Gapped ws t' := by
  constructor
  · rintro ⟨⟩
    exact ⟨_, _, ‹_›, rfl, ‹_›⟩
  · rintro ⟨gap, t', blank, rfl, h⟩
    exact .cons blank h

theorem squeeze_eq_self_of_solid {s : List Char} (solid : ∀ c ∈ s, isBlank c = false) :
    squeeze s = s := by
  by_cases none : s = []
  · rw [none]
    rfl
  · rw [squeeze, words_of_isWord ⟨none, solid⟩]
    rfl

namespace Gapped

variable {ws : List (List Char)} {s t gap : List Char}

/-- More blanks in front of the first text do not matter. -/
theorem blank_append {w : List Char} (blank : ∀ c ∈ gap, isBlank c = true)
    (h : Gapped (w :: ws) t) : Gapped (w :: ws) (gap ++ t) := by
  obtain ⟨gap', t', blank', rfl, others⟩ := gapped_cons_iff.mp h
  rw [← List.append_assoc]
  refine .cons (fun c hc => ?_) others
  rcases List.mem_append.mp hc with new | own
  · exact blank c new
  · exact blank' c own

/-- Squeezing leaves the texts in their row, if they have no blanks. -/
theorem squeeze (h : Gapped ws t) (solid : ∀ w ∈ ws, ∀ c ∈ w, isBlank c = false) :
    Gapped ws (squeeze t) := by
  induction h with
  | nil => exact .nil
  | @cons gap w t ws blank h ih =>
    obtain ⟨own, others⟩ := List.forall_mem_cons.mp solid
    obtain ⟨between, betweenBlank, split⟩ := squeeze_append w t
    rw [squeeze_blank_append blank]
    cases ws with
    | nil =>
      obtain rfl := gapped_nil_iff.mp h
      rw [List.append_nil, squeeze_eq_self_of_solid own]
      simpa using @Gapped.cons [] w [] [] (by simp) .nil
    | cons =>
      rw [split, squeeze_eq_self_of_solid own]
      exact @Gapped.cons [] w _ _ (by simp) ((ih others).blank_append betweenBlank)

/-- Texts without blanks stay in their row when the blanks between them change. -/
theorem loosen (h : Gapped ws s) (solid : ∀ w ∈ ws, ∀ c ∈ w, isBlank c = false)
    (loosened : Loosened s t) : Gapped ws t := by
  induction h generalizing t with
  | nil =>
    cases loosened
    exact .nil
  | cons blank h ih =>
    obtain ⟨own, others⟩ := List.forall_mem_cons.mp solid
    obtain ⟨gap, rest, rfl, inGap, loosened⟩ := loosened.exists_append
    obtain ⟨w', rest, rfl, inWord, loosened⟩ := loosened.exists_append
    rw [inWord.eq_of_solid own]
    exact .cons (inGap.isBlank_of_blank blank) (ih others loosened)

end Gapped

end RouteAlerts.Text
