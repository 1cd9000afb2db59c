import RouteAlerts.Proofs.Text.Piece
import RouteAlerts.Proofs.Text.Substitute

/-!
Where the words of a text end. Positions in a text are counted in characters that are no blanks, so
they mean the same in texts that differ in their blanks alone. Two texts have the same blanks when
they have the same characters otherwise and blanks at the same positions, however many at each of
them (`SameBlanks`). That is kept by putting other texts around them, so it can be shown piece by
piece; and a word breaks in the one where a word breaks in the other (`SameBlanks.breaksAt_iff`).
-/

namespace RouteAlerts.Text

/-- A blank stands behind `i` characters that are none. -/
def BlankAt (s : List Char) (i : Nat) : Prop :=
  ∃ front c back, s = front ++ c :: back ∧ isBlank c = true ∧ (strip front).length = i

/-- Behind `i` characters that are no blanks a word ends, and another one starts. -/
structure BreaksAt (s : List Char) (i : Nat) : Prop where
  blank : BlankAt s i
  pos : 0 < i
  lt : i < (strip s).length

/-! ### Blanks of texts put together -/

theorem blankAt_append {s t : List Char} {i : Nat} :
    BlankAt (s ++ t) i ↔ BlankAt s i ∨ ∃ j, BlankAt t j ∧ i = (strip s).length + j := by
  constructor
  · rintro ⟨front, c, back, split, blank, rfl⟩
    rcases List.append_eq_append_iff.mp split with ⟨more, rfl, inT⟩ | ⟨more, rfl, rest⟩
    · exact .inr ⟨_, ⟨more, c, back, inT, blank, rfl⟩, by simp⟩
    · cases more with
      | nil => exact .inr ⟨0, ⟨[], c, back, by simpa using rest.symm, blank, rfl⟩, by simp⟩
      | cons d more =>
        obtain ⟨rfl, rfl⟩ := List.cons.inj rest
        exact .inl ⟨front, c, more, rfl, blank, rfl⟩
  · rintro (⟨front, c, back, rfl, blank, rfl⟩ | ⟨_, ⟨front, c, back, rfl, blank, rfl⟩, rfl⟩)
    · exact ⟨front, c, back ++ t, by simp, blank, rfl⟩
    · exact ⟨s ++ front, c, back, by simp, blank, by simp⟩

@[simp] theorem not_blankAt_nil (i : Nat) : ¬ BlankAt [] i := by
  rintro ⟨front, c, back, split, -⟩
  simp at split

/-- A text of characters that are no blanks is blank nowhere. -/
theorem not_blankAt_of_solid {s : List Char} (h : ∀ c ∈ s, isBlank c = false) (i : Nat) :
    ¬ BlankAt s i := by
  rintro ⟨front, c, back, rfl, blank, -⟩
  rw [h c (by simp)] at blank
  cases blank

/-- Blanks alone are all in one place. -/
theorem blankAt_iff_of_blank {s : List Char} (nonempty : s ≠ [])
    (h : ∀ c ∈ s, isBlank c = true) {i : Nat} : BlankAt s i ↔ i = 0 := by
  constructor
  · rintro ⟨front, c, back, rfl, -, rfl⟩
    have none : strip front = [] := strip_eq_nil_iff.mpr fun d hd => h d (by simp [hd])
    simp [none]
  · rintro rfl
    obtain ⟨c, back, rfl⟩ := List.exists_cons_of_ne_nil nonempty
    exact ⟨[], c, back, rfl, h c List.mem_cons_self, rfl⟩

/-- No blank stands further behind than the characters go. -/
theorem BlankAt.le {s : List Char} {i : Nat} (h : BlankAt s i) : i ≤ (strip s).length := by
  obtain ⟨front, c, back, rfl, -, rfl⟩ := h
  simp

/-- A blank of texts put together stands in one of them, behind those before it. -/
theorem blankAt_flatMap {α : Type} {f : α → List Char} {xs : List α} {i : Nat} :
    BlankAt (xs.flatMap f) i ↔ ∃ earlier x later j, xs = earlier ++ x :: later ∧
      BlankAt (f x) j ∧ i = (strip (earlier.flatMap f)).length + j := by
  induction xs generalizing i with
  | nil => simp
  | cons x xs ih =>
    rw [List.flatMap_cons, blankAt_append]
    constructor
    · rintro (own | ⟨j, later, rfl⟩)
      · exact ⟨[], x, xs, i, rfl, own, by simp⟩
      · obtain ⟨earlier, y, behind, k, rfl, blank, rfl⟩ := ih.mp later
        exact ⟨x :: earlier, y, behind, k, rfl, blank, by simp [Nat.add_assoc]⟩
    · rintro ⟨earlier, y, later, j, split, blank, rfl⟩
      cases earlier with
      | nil =>
        obtain ⟨rfl, -⟩ := List.cons.inj split
        exact .inl (by simpa using blank)
      | cons z earlier =>
        obtain ⟨rfl, rfl⟩ := List.cons.inj split
        exact .inr ⟨_, ih.mpr ⟨earlier, y, later, j, rfl, blank, rfl⟩, by simp [Nat.add_assoc]⟩

/-! ### Blanks around a text -/

theorem breaksAt_blank_append {front s : List Char} (h : ∀ c ∈ front, isBlank c = true) {i : Nat} :
    BreaksAt (front ++ s) i ↔ BreaksAt s i := by
  have none : strip front = [] := strip_eq_nil_iff.mpr h
  constructor
  · rintro ⟨blank, pos, lt⟩
    rcases blankAt_append.mp blank with inFront | ⟨j, inText, eq⟩
    · have := inFront.le
      simp only [none, List.length_nil] at this
      omega
    · obtain rfl : i = j := by simpa [none] using eq
      exact ⟨inText, pos, by simpa [none] using lt⟩
  · rintro ⟨blank, pos, lt⟩
    exact ⟨blankAt_append.mpr (.inr ⟨i, blank, by simp [none]⟩), pos, by simpa [none] using lt⟩

theorem breaksAt_append_blank {s back : List Char} (h : ∀ c ∈ back, isBlank c = true) {i : Nat} :
    BreaksAt (s ++ back) i ↔ BreaksAt s i := by
  have none : strip back = [] := strip_eq_nil_iff.mpr h
  constructor
  · rintro ⟨blank, pos, lt⟩
    simp only [strip_append, none, List.append_nil] at lt
    rcases blankAt_append.mp blank with inText | ⟨j, -, eq⟩
    · exact ⟨inText, pos, lt⟩
    · omega
  · rintro ⟨blank, pos, lt⟩
    exact ⟨blankAt_append.mpr (.inl blank), pos, by simpa [none] using lt⟩

/-- Trimming moves no word break. -/
theorem breaksAt_trim {s : List Char} {i : Nat} : BreaksAt (trim s) i ↔ BreaksAt s i := by
  obtain ⟨front, back, frontBlank, backBlank, split⟩ := exists_trim s
  calc BreaksAt (trim s) i ↔ BreaksAt (front ++ trim s) i := (breaksAt_blank_append frontBlank).symm
    _ ↔ BreaksAt (front ++ trim s ++ back) i := (breaksAt_append_blank backBlank).symm
    _ ↔ BreaksAt s i := by rw [← split]

theorem exists_solid_of_front {s front back : List Char} (split : trim s = front ++ back)
    (nonempty : front ≠ []) : ∃ c ∈ front, isBlank c = false := by
  obtain ⟨c, front, rfl⟩ := List.exists_cons_of_ne_nil nonempty
  exact ⟨c, List.mem_cons_self, isBlank_head_trim s c (by simp [split])⟩

theorem exists_solid_of_back {s front back : List Char} (split : trim s = front ++ back)
    (nonempty : back ≠ []) : ∃ c ∈ back, isBlank c = false := by
  obtain ⟨c, last⟩ := Option.ne_none_iff_exists'.mp (mt List.getLast?_eq_none_iff.mp nonempty)
  refine ⟨c, List.mem_of_getLast? last, isBlank_last_trim s c ?_⟩
  rw [split, List.getLast?_append, last]
  rfl

/-- What is left of a text when it is trimmed has blanks between its words only. -/
theorem blankAt_trim {s : List Char} {i : Nat} : BlankAt (trim s) i ↔ BreaksAt s i := by
  rw [← breaksAt_trim]
  refine ⟨fun blank => ⟨blank, ?_, ?_⟩, BreaksAt.blank⟩
  · obtain ⟨front, c, back, split, blank, rfl⟩ := blank
    have upTo : trim s = (front ++ [c]) ++ back := by simpa using split
    obtain ⟨d, member, solid⟩ := exists_solid_of_front upTo (by simp)
    have before : d ∈ strip front := by
      refine List.mem_filter.mpr ⟨?_, by simp [solid]⟩
      rcases List.mem_append.mp member with inFront | last
      · exact inFront
      · rw [List.mem_singleton.mp last, blank] at solid
        cases solid
    exact List.length_pos_of_mem before
  · obtain ⟨front, c, back, split, blank, rfl⟩ := blank
    obtain ⟨d, member, solid⟩ := exists_solid_of_back split (List.cons_ne_nil c back)
    have behind : d ∈ strip (c :: back) := List.mem_filter.mpr ⟨member, by simp [solid]⟩
    have := List.length_pos_of_mem behind
    rw [split, strip_append, List.length_append]
    omega

/-! ### Texts with the same blanks -/

/-- Two texts differ only in how many blanks, and which, stand in one place. -/
structure SameBlanks (s t : List Char) : Prop where
  strip_eq : strip s = strip t
  blankAt_iff : ∀ i, BlankAt s i ↔ BlankAt t i

namespace SameBlanks

variable {s t u : List Char}

theorem refl (s : List Char) : SameBlanks s s := ⟨rfl, fun _ => Iff.rfl⟩

theorem trans (h : SameBlanks s t) (h' : SameBlanks t u) : SameBlanks s u :=
  ⟨h.strip_eq.trans h'.strip_eq, fun i => (h.blankAt_iff i).trans (h'.blankAt_iff i)⟩

/-- Other texts around do not matter. -/
theorem append {s' t' : List Char} (h : SameBlanks s t) (h' : SameBlanks s' t') :
    SameBlanks (s ++ s') (t ++ t') := by
  constructor
  · rw [strip_append, strip_append, h.strip_eq, h'.strip_eq]
  · intro i
    simp only [blankAt_append, h.blankAt_iff, h'.blankAt_iff, h.strip_eq]

theorem breaksAt_iff (h : SameBlanks s t) {i : Nat} : BreaksAt s i ↔ BreaksAt t i := by
  constructor
  · exact fun ⟨blank, pos, lt⟩ => ⟨(h.blankAt_iff i).mp blank, pos, h.strip_eq ▸ lt⟩
  · exact fun ⟨blank, pos, lt⟩ => ⟨(h.blankAt_iff i).mpr blank, pos, h.strip_eq ▸ lt⟩

end SameBlanks

/-- Some blanks are as good as others. -/
theorem sameBlanks_of_blank {s t : List Char} (hs : s ≠ []) (ht : t ≠ [])
    (sBlank : ∀ c ∈ s, isBlank c = true) (tBlank : ∀ c ∈ t, isBlank c = true) : SameBlanks s t := by
  constructor
  · rw [strip_eq_nil_iff.mpr sBlank, strip_eq_nil_iff.mpr tBlank]
  · intro i
    rw [blankAt_iff_of_blank hs sBlank, blankAt_iff_of_blank ht tBlank]

/-- To put blanks in the place of blanks leaves a text with the same blanks. -/
theorem sameBlanks_substitute {α : Type} {r : Reader α} {f : α → List Char} (takes : Takes r)
    (blanks : ∀ printed rest a, r (printed ++ rest) = some (a, rest) →
      ∀ c ∈ printed, isBlank c = true)
    (nonempty : ∀ a, f a ≠ []) (put : ∀ a, ∀ c ∈ f a, isBlank c = true) (s : List Char) :
    SameBlanks (substitute r f s) s := by
  refine substitute_cons_induction (f := f) takes (P := fun s t => SameBlanks t s) ?_ ?_ ?_ s
  · exact .refl []
  · intro printed rest a printed_ne_nil read ih
    have same :=
      sameBlanks_of_blank (nonempty a) printed_ne_nil (put a) (blanks printed rest a read)
    exact same.append ih
  · intro c s _ ih
    exact (SameBlanks.refl [c]).append ih

end RouteAlerts.Text
