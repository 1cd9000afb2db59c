import RouteAlerts.Proofs.Schedule.Layout

/-!
Which words of a tree stay apart in its text. Every text node is trimmed on its own and the texts
are put together as they are, so a blank at the edge of a text node is no longer there. Two words
are apart in the result exactly when they are apart inside one text node, or when an element ends
the line between them (`breaksAt_lines_iff`). Words of neighbouring text nodes with nothing but a
blank between them run together (`words_run_together`).
-/

namespace RouteAlerts.Schedule

open Text Html

/-- How many characters of some parts of a tree are no blanks. -/
def size (ps : List Piece) : Nat := (strip (ps.flatMap Piece.text)).length

/-- The `i`-th character of a tree that is no blank and the next one belong to one text node. -/
def InOneText (n : Node) (i : Nat) : Prop :=
  ∃ earlier s later, Piece.parts n = earlier ++ .words s :: later ∧
    size earlier < i ∧ i < size earlier + (strip s).length

/-- Behind the `i`-th character of a tree that is no blank, and before the next one, an element asks
for a line end. -/
structure LineEndsAt (n : Node) (i : Nat) : Prop where
  asked : ∃ earlier later, Piece.parts n = earlier ++ .lineEnd :: later ∧ size earlier = i
  pos : 0 < i
  lt : i < (strip n.content).length

theorem content_eq {n : Node} {earlier later : List Piece} {p : Piece}
    (split : Piece.parts n = earlier ++ p :: later) :
    n.content = earlier.flatMap Piece.text ++ (p.text ++ later.flatMap Piece.text) := by
  rw [Node.content, ← Piece.flatMap_text_parts, split, List.flatMap_append, List.flatMap_cons]

/-- A break inside of a text node is one of the whole tree. -/
theorem breaksAt_content {n : Node} {earlier later : List Piece} {s : List Char} {j : Nat}
    (split : Piece.parts n = earlier ++ .words s :: later) (h : BreaksAt s j) :
    BreaksAt n.content (size earlier + j) := by
  have content := content_eq split
  constructor
  · rw [content]
    exact blankAt_append.mpr (.inr ⟨j, blankAt_append.mpr (.inl h.blank), rfl⟩)
  · have := h.pos
    omega
  · have := h.lt
    rw [content, strip_append, strip_append, List.length_append, List.length_append, Piece.text,
      size]
    omega

/-- A break of the whole tree between two characters of one text node is one of the text node. -/
theorem breaksAt_of_content {n : Node} {earlier later : List Piece} {s : List Char} {i : Nat}
    (split : Piece.parts n = earlier ++ .words s :: later) (blank : BlankAt n.content i)
    (start : size earlier < i) (stop : i < size earlier + (strip s).length) :
    ∃ j, BreaksAt s j ∧ i = size earlier + j := by
  rw [content_eq split] at blank
  rcases blankAt_append.mp blank with before | ⟨j, fromText, eq⟩
  · have := before.le
    rw [size] at start
    omega
  · rw [← size] at eq
    rcases blankAt_append.mp fromText with inText | ⟨k, -, behind⟩
    · exact ⟨j, ⟨inText, by omega, by omega⟩, eq⟩
    · rw [Piece.text] at behind
      omega

/-- What is laid out is blank where a text node is blank between two of its words, and where a line
ends. -/
theorem blankAt_laidOut_iff {n : Node} {i : Nat} :
    BlankAt (laidOut n) i ↔
      (∃ earlier s later j, Piece.parts n = earlier ++ .words s :: later ∧ BreaksAt s j ∧
        i = size earlier + j) ∨
      ∃ earlier later, Piece.parts n = earlier ++ .lineEnd :: later ∧ size earlier = i := by
  have before : ∀ ps : List Piece, (strip (ps.flatMap Piece.laidOut)).length = size ps :=
    fun ps => congrArg List.length (Piece.strip_flatMap_laidOut ps)
  have line : ∀ {j}, BlankAt ['\n'] j ↔ j = 0 :=
    blankAt_iff_of_blank (by simp) (by simp [isBlank])
  rw [laidOut, blankAt_flatMap]
  constructor
  · rintro ⟨earlier, p, later, j, split, blank, rfl⟩
    rw [before]
    cases p with
    | words s => exact .inl ⟨earlier, s, later, j, split, blankAt_trim.mp blank, rfl⟩
    | lineEnd =>
      obtain rfl := line.mp blank
      exact .inr ⟨earlier, later, split, rfl⟩
  · rintro (⟨earlier, s, later, j, split, breaks, rfl⟩ | ⟨earlier, later, split, rfl⟩)
    · exact ⟨earlier, .words s, later, j, split, blankAt_trim.mpr breaks, by rw [before]⟩
    · exact ⟨earlier, .lineEnd, later, 0, split, line.mpr rfl, by rw [before, Nat.add_zero]⟩

/-- Two neighbouring characters of the text of an element are kept apart exactly when blanks stand
between them in one of its text nodes, or when it asks for a line end between them. -/
theorem breaksAt_lines_iff (n : Node) (i : Nat) :
    BreaksAt (lines n) i ↔ BreaksAt n.content i ∧ InOneText n i ∨ LineEndsAt n i := by
  rw [breaksAt_lines]
  constructor
  · rintro ⟨blank, pos, lt⟩
    rw [strip_laidOut] at lt
    rcases blankAt_laidOut_iff.mp blank with ⟨earlier, s, later, j, split, breaks, rfl⟩ | asked
    · refine .inl ⟨breaksAt_content split breaks, earlier, s, later, split, ?_, ?_⟩
      · have := breaks.pos
        omega
      · have := breaks.lt
        omega
    · exact .inr ⟨asked, pos, lt⟩
  · rintro (⟨⟨blank, pos, lt⟩, earlier, s, later, split, start, stop⟩ | ⟨asked, pos, lt⟩)
    · obtain ⟨j, breaks, rfl⟩ := breaksAt_of_content split blank start stop
      refine ⟨blankAt_laidOut_iff.mpr (.inl ⟨earlier, s, later, j, split, breaks, rfl⟩), pos, ?_⟩
      rwa [strip_laidOut]
    · refine ⟨blankAt_laidOut_iff.mpr (.inr asked), pos, ?_⟩
      rwa [strip_laidOut]

/-- A blank at the end of a text node does not keep its last word from the first one of the next. -/
theorem words_run_together :
    ¬ ∀ (n : Node) (i : Nat), BreaksAt n.content i → BreaksAt (lines n) i := by
  intro keeps
  let cell : Node :=
    .element "td" [] [.text "광화문 ".toList, .element "b" [] [.text "동측".toList]]
  have apart : BreaksAt cell.content 3 := by
    refine ⟨⟨"광화문".toList, ' ', "동측".toList, ?_, rfl, ?_⟩, ?_, ?_⟩ <;> decide
  have glued : lines cell = "광화문동측".toList := by decide +kernel
  have solid : (lines cell).all (!isBlank ·) = true := by
    rw [glued]
    decide
  have together : ∀ c ∈ lines cell, isBlank c = false := by simpa using solid
  exact not_blankAt_of_solid together 3 (keeps cell 3 apart).blank

end RouteAlerts.Schedule
