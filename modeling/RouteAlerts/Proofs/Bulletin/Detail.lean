import RouteAlerts.Proofs.Bulletin.Headcount
import RouteAlerts.Bulletin.Slots

/-!
The text of a slot. It is split at its attendance figure; places are read from what stands before
the figure, and the remark is put together from what stands behind it and from the annotations among
the places (`detail_of`).
-/

namespace RouteAlerts.Bulletin

open Text

/-! ### Annotations -/

/-- An annotation as it is printed: between angle brackets, with no closing one inside. -/
def IsAnnotation (printed content : List Char) : Prop :=
  content ≠ [] ∧ (∀ c ∈ content, c ≠ '>') ∧ printed = '<' :: content ++ ['>']

theorem annotation?_eq_some {s content rest : List Char}
    (h : annotation? s = some (content, rest)) :
    ∃ printed, IsAnnotation printed content ∧ s = printed ++ rest := by
  unfold annotation? at h
  split at h
  · rename_i s
    simp only at h
    split at h
    · rename_i behind close
      split at h
      · cases h
      · rename_i nonempty
        obtain ⟨rfl, rfl⟩ := Prod.mk.inj (Option.some.inj h)
        have split := List.takeWhile_append_dropWhile (p := (· != '>')) (l := s)
        rw [close] at split
        refine ⟨_, ⟨by simpa using nonempty, fun c hc => ?_, rfl⟩, ?_⟩
        · simpa using List.all_eq_true.mp List.all_takeWhile c hc
        · simp [split]
    · cases h
  · cases h

theorem takes_annotation? : Takes annotation? := by
  intro s content rest h
  obtain ⟨printed, ⟨-, -, rfl⟩, split⟩ := annotation?_eq_some h
  exact ⟨_, by simp, split⟩

/-- An annotation is read where it stands. -/
theorem annotation?_printed {printed content : List Char} (h : IsAnnotation printed content)
    (rest : List Char) : annotation? (printed ++ rest) = some (content, rest) := by
  obtain ⟨nonempty, inside, rfl⟩ := h
  have all : ∀ c ∈ content, (c != '>') = true := fun c hc => by simpa using inside c hc
  have stop : ∀ c ∈ ('>' :: rest).head?, (c != '>') = false := by simp
  simp [annotation?, takeWhile_append_stop all stop, dropWhile_append_stop all stop, nonempty]

theorem annotation?_eq_some_iff {s content rest : List Char} :
    annotation? s = some (content, rest) ↔
      ∃ printed, IsAnnotation printed content ∧ s = printed ++ rest := by
  refine ⟨annotation?_eq_some, ?_⟩
  rintro ⟨printed, isAnnotation, rfl⟩
  exact annotation?_printed isAnnotation rest

theorem annotation?_eq_none {c : Char} (s : List Char) (h : c ≠ '<') :
    annotation? (c :: s) = none := by
  unfold annotation?
  split
  · rename_i eq
    exact absurd (List.cons.inj eq).1 h
  · rfl

/-- No annotation starts in a text without opening brackets. -/
theorem silent_annotation? {s : List Char} (h : ∀ c ∈ s, c ≠ '<') (rest : List Char) :
    Silent annotation? s rest :=
  silent_of_heads (p := (· == '<')) (fun _ t hc => annotation?_eq_none t (by simpa using hc))
    fun c hc => beq_eq_false_iff_ne.mpr (h c hc)

/-! ### The parts of a slot -/

/-- The text of a slot in three parts: what stands before its attendance figure, the figure, and
what stands behind it. Without a figure everything stands before it. -/
structure Segments where
  before : List Char
  figure : List Char
  after : List Char
  value : Option Nat

def segments (text : List Char) : Segments :=
  match Headcount.find? (trim text) with
  | some h => ⟨h.before, h.span, h.after, some h.value⟩
  | none => ⟨trim text, [], [], none⟩

/-- The parts make up the text, and the figure is all that lies between the other two. -/
structure Segments.IsSplit (s : Segments) (text : List Char) : Prop where
  whole : text = s.before ++ s.figure ++ s.after
  figure : ∀ n ∈ s.value, Headcount.IsFigure n s.figure
  noFigure : s.value = none → s.figure = [] ∧ s.after = []

theorem isSplit_segments (text : List Char) : (segments text).IsSplit (trim text) := by
  unfold segments
  cases found : Headcount.find? (trim text) with
  | some h =>
    obtain ⟨whole, figure⟩ := Headcount.find?_eq_some found
    exact ⟨whole, by simpa using figure, by simp⟩
  | none => exact ⟨by simp, by simp, by simp⟩

/-- What follows the figure and the annotations, before words are tidied. -/
def remarkOf (text : List Char) : List Char :=
  joinWith [' '] ([trim (segments text).after,
    trim (annotationsOf (trim (segments text).before))].filter (!·.isEmpty))

theorem detail_of (text : List Char) :
    Detail.of text =
      ⟨if (placesOf (trim (segments text).before)).isEmpty then placesOf (trim text)
        else placesOf (trim (segments text).before),
        (segments text).value, closeGaps (squeeze (remarkOf text))⟩ := by
  cases found : Headcount.find? (trim text) <;> simp only [Detail.of, segments, remarkOf, found]

end RouteAlerts.Bulletin
