import RouteAlerts.Proofs.Text.WordBreak
import RouteAlerts.Schedule.Layout

/-!
The text of an element against the tree. `parts` is what the tree says in document order: its texts,
and the line ends that its elements ask for. A layout is built with the last part in view and leaves
out line ends where a line has ended already; behind a line break that makes no difference but in
how many blanks stand in one place (`sameBlanks_addNode`). The passes over the layout put blanks in
the place of blanks, so nothing but blanks is lost (`strip_lines`), and what they leave has neither
blank lines nor wide spaces (`lines_keep_text`).
-/

namespace RouteAlerts.Schedule

open Text Html

namespace Piece

/-! ### What a tree says -/

/-- The line end that an element asks for in front of its content. -/
def opening (name : String) : List Piece :=
  if name == "br" || startsLine.contains name then [lineEnd] else []

/-- The line end that an element asks for behind its content. -/
def closing (name : String) : List Piece := if endsLine.contains name then [lineEnd] else []

mutual

/-- The texts of a tree and the line ends that its elements ask for, in document order. -/
def parts : Node → List Piece
  | .text s => [words s]
  | .comment _ => []
  | .element name _ children => opening name ++ (partsOf children ++ closing name)

/-- The parts of a list of trees, in document order. -/
def partsOf : List Node → List Piece
  | [] => []
  | n :: ns => parts n ++ partsOf ns

end

def text : Piece → List Char
  | words s => s
  | lineEnd => []

/-- A part as it is laid out: texts are trimmed, line ends are line breaks. -/
def laidOut : Piece → List Char
  | words s => trim s
  | lineEnd => ['\n']

@[simp] theorem flatMap_text_opening (name : String) : (opening name).flatMap text = [] := by
  unfold opening
  split <;> rfl

@[simp] theorem flatMap_text_closing (name : String) : (closing name).flatMap text = [] := by
  unfold closing
  split <;> rfl

mutual

/-- Without its line ends a tree says what its text nodes say. -/
theorem flatMap_text_parts : ∀ n : Node, (parts n).flatMap text = n.texts.flatten
  | .text s => by simp [parts, Node.texts, text]
  | .comment s => by simp [parts, Node.texts]
  | .element name _ children => by
    simp [parts, Node.texts, flatMap_text_partsOf children]

theorem flatMap_text_partsOf : ∀ ns : List Node,
    (partsOf ns).flatMap text = (Node.textsOf ns).flatten
  | [] => rfl
  | n :: ns => by
    simp [partsOf, Node.textsOf, flatMap_text_parts n, flatMap_text_partsOf ns]

end

/-- Trimming texts and ending lines is a matter of blanks. -/
theorem strip_flatMap_laidOut (ps : List Piece) :
    strip (ps.flatMap laidOut) = strip (ps.flatMap text) := by
  induction ps with
  | nil => rfl
  | cons p ps ih =>
    rw [List.flatMap_cons, List.flatMap_cons, strip_append, strip_append, ih]
    cases p with
    | words s => rw [laidOut, text, strip_trim]
    | lineEnd => rfl

/-! ### The layout of a tree -/

/-- The text of a layout, whose parts stand in reverse order, behind a line break. -/
def written (done : List Piece) : List Char := '\n' :: done.reverse.flatMap chars

theorem written_cons (p : Piece) (done : List Piece) :
    written (p :: done) = written done ++ p.chars := by
  simp [written]

/-- It does not matter that no second line end is put behind a first one. -/
theorem sameBlanks_endLine (done : List Piece) :
    SameBlanks (written (endLine done)) (written done ++ ['\n']) := by
  have line : SameBlanks ['\n'] ['\n', '\n'] := by
    apply sameBlanks_of_blank <;> simp [isBlank]
  cases done with
  | nil => exact line
  | cons last rest =>
    cases last with
    | lineEnd =>
      have before := (SameBlanks.refl (written rest)).append line
      rw [endLine, written_cons, List.append_assoc]
      exact before
    | words s =>
      have ended : endLine (words s :: rest) = lineEnd :: words s :: rest := rfl
      rw [ended, written_cons]
      exact .refl _

theorem sameBlanks_enter (name : String) (done : List Piece) :
    SameBlanks (written (enter name done)) (written done ++ (opening name).flatMap laidOut) := by
  unfold enter opening
  by_cases explicit : name = "br"
  · simp only [explicit, beq_self_eq_true, if_true, Bool.true_or, written_cons]
    exact .refl _
  · have other : (name == "br") = false := by simpa using explicit
    simp only [other, Bool.false_eq_true, if_false, Bool.false_or]
    split
    · exact sameBlanks_endLine done
    · simpa using SameBlanks.refl (written done)

theorem sameBlanks_leave (name : String) (done : List Piece) :
    SameBlanks (written (leave name done)) (written done ++ (closing name).flatMap laidOut) := by
  unfold leave closing
  split
  · exact sameBlanks_endLine done
  · simpa using SameBlanks.refl (written done)

mutual

/-- A layout goes on with what a tree says. -/
theorem sameBlanks_addNode : ∀ (done : List Piece) (n : Node),
    SameBlanks (written (addNode done n)) (written done ++ (parts n).flatMap laidOut)
  | done, .text s => by
    have same : written (addNode done (.text s)) = written done ++ trim s := by
      rw [addNode]
      split
      · rename_i blank
        simp [List.isEmpty_iff.mp blank]
      · rw [written_cons, chars]
    simpa [parts, laidOut, same] using SameBlanks.refl (written done ++ trim s)
  | done, .comment s => by simpa [parts, addNode] using SameBlanks.refl (written done)
  | done, .element name _ children => by
    rw [addNode, parts, List.flatMap_append, List.flatMap_append, ← List.append_assoc,
      ← List.append_assoc]
    refine (sameBlanks_leave name _).trans (.append ?_ (.refl _))
    refine (sameBlanks_addNodes _ children).trans (.append ?_ (.refl _))
    exact sameBlanks_enter name done

theorem sameBlanks_addNodes : ∀ (done : List Piece) (ns : List Node),
    SameBlanks (written (addNodes done ns)) (written done ++ (partsOf ns).flatMap laidOut)
  | done, [] => by simpa [partsOf, addNodes] using SameBlanks.refl (written done)
  | done, n :: ns => by
    rw [addNodes, partsOf, List.flatMap_append, ← List.append_assoc]
    refine (sameBlanks_addNodes _ ns).trans (.append ?_ (.refl _))
    exact sameBlanks_addNode done n

end

end Piece

/-! ### Blank lines -/

/-- The line breaks among the blanks that a text starts with. -/
def leadingBreaks (s : List Char) : Nat := (s.takeWhile isBlank).count '\n'

@[simp] theorem leadingBreaks_nil : leadingBreaks [] = 0 := rfl

theorem leadingBreaks_cons_of_solid {c : Char} (h : isBlank c = false) (s : List Char) :
    leadingBreaks (c :: s) = 0 := by
  simp [leadingBreaks, h]

theorem leadingBreaks_blank_append {run : List Char} (h : ∀ c ∈ run, isBlank c = true)
    (s : List Char) : leadingBreaks (run ++ s) = run.count '\n' + leadingBreaks s := by
  rw [leadingBreaks, List.takeWhile_append_of_pos h, List.count_append, leadingBreaks]

theorem leadingBreaks_newline (s : List Char) :
    leadingBreaks ('\n' :: s) = 1 + leadingBreaks s := by
  have blank : ∀ c ∈ ['\n'], isBlank c = true := by simp [isBlank]
  exact leadingBreaks_blank_append blank s

theorem leadingBreaks_cons_of_blank {c : Char} (blank : isBlank c = true) (other : c ≠ '\n')
    (s : List Char) : leadingBreaks (c :: s) = leadingBreaks s := by
  have whole := @leadingBreaks_blank_append [c] (by simpa using blank) s
  simpa [List.count_singleton, other] using whole

/-- A character in front changes the line breaks in a way that depends on them alone. -/
theorem leadingBreaks_cons_congr {s t : List Char} (h : leadingBreaks s = leadingBreaks t)
    (c : Char) : leadingBreaks (c :: s) = leadingBreaks (c :: t) := by
  by_cases blank : isBlank c = true
  · have whole := @leadingBreaks_blank_append [c] (by simpa using blank)
    simp only [List.singleton_append] at whole
    rw [whole, whole, h]
  · have solid : isBlank c = false := by simpa using blank
    rw [leadingBreaks_cons_of_solid solid, leadingBreaks_cons_of_solid solid]

/-- Nowhere in a text do blanks start that hold two line breaks. -/
def HasNoBlankLine (s : List Char) : Prop := ∀ t, t <:+ s → leadingBreaks t ≤ 1

theorem hasNoBlankLine_nil : HasNoBlankLine [] := by
  intro t suffix
  simp [List.suffix_nil.mp suffix]

theorem hasNoBlankLine_cons {c : Char} {s : List Char} :
    HasNoBlankLine (c :: s) ↔ leadingBreaks (c :: s) ≤ 1 ∧ HasNoBlankLine s := by
  constructor
  · exact fun h => ⟨h _ List.suffix_rfl, fun t suffix => h t (suffix.trans (List.suffix_cons c s))⟩
  · rintro ⟨front, rest⟩ t suffix
    rcases List.suffix_cons_iff.mp suffix with rfl | suffix
    · exact front
    · exact rest t suffix

theorem HasNoBlankLine.of_suffix {s t : List Char} (h : HasNoBlankLine s) (suffix : t <:+ s) :
    HasNoBlankLine t :=
  fun u inner => h u (inner.trans suffix)

/-- Blanks of such a text hold one line break at most. -/
theorem HasNoBlankLine.count_le {s run : List Char} (h : HasNoBlankLine s) (inside : run <:+: s)
    (blank : ∀ c ∈ run, isBlank c = true) : run.count '\n' ≤ 1 := by
  obtain ⟨front, back, rfl⟩ := inside
  have start := h (run ++ back) ⟨front, by simp⟩
  rw [leadingBreaks_blank_append blank] at start
  omega

/-- Blank lines are two line breaks with blanks between them, up to the last line break. -/
theorem blankLines?_eq_some {s rest : List Char} (h : blankLines? s = some ((), rest)) :
    ∃ run, (∀ c ∈ run, isBlank c = true) ∧ s = '\n' :: (run ++ '\n' :: rest) ∧
      leadingBreaks rest = 0 := by
  unfold blankLines? at h
  split at h
  · rename_i behind
    dsimp only at h
    split at h
    · rename_i before after last
      obtain ⟨c, isBreak, split, clear⟩ := splitLast_eq_some last
      obtain rfl : c = '\n' := by simpa using isBreak
      have whole := List.takeWhile_append_dropWhile (p := isBlank) (l := behind)
      have blank : ∀ c ∈ behind.takeWhile isBlank, isBlank c = true :=
        fun c hc => List.mem_takeWhile_imp hc
      have stop : (behind.dropWhile isBlank).takeWhile isBlank = [] :=
        @takeWhile_append_stop _ _ [] _ (by simp) head_dropWhile
      rw [split] at whole blank
      -- From here on only what the blanks end in matters, not how they were taken.
      generalize behind.dropWhile isBlank = tail at whole stop
      subst whole
      obtain rfl : after ++ tail = rest := by simpa using h
      have none : after.count '\n' = 0 :=
        List.count_eq_zero.mpr fun isBreak => by simpa using clear '\n' isBreak
      refine ⟨before, fun c hc => blank c (by simp [hc]), by simp, ?_⟩
      rw [leadingBreaks_blank_append fun c hc => blank c (by simp [hc]), none]
      simp [leadingBreaks, stop]
    · cases h
  · cases h

theorem takes_blankLines? : Takes blankLines? := by
  intro s _ rest h
  obtain ⟨run, -, split, -⟩ := blankLines?_eq_some h
  exact ⟨'\n' :: (run ++ ['\n']), by simp, by simp [split]⟩

/-- A line break that starts no blank lines has no other behind it. -/
theorem leadingBreaks_of_blankLines?_eq_none {s : List Char} (h : blankLines? ('\n' :: s) = none) :
    leadingBreaks s = 0 := by
  rw [blankLines?] at h
  split at h
  · cases h
  · rename_i none
    refine List.count_eq_zero.mpr fun isBreak => ?_
    simpa using splitLast_eq_none none '\n' isBreak

/-- The pass over the blank lines leaves none, and every line break it takes out leaves another one
where it was. -/
theorem dropBlankLines (s : List Char) :
    let t := substitute blankLines? (fun _ => ['\n']) s
    leadingBreaks t = min 1 (leadingBreaks s) ∧ HasNoBlankLine t := by
  refine substitute_cons_induction (f := fun _ => ['\n']) takes_blankLines?
    (P := fun s t => leadingBreaks t = min 1 (leadingBreaks s) ∧ HasNoBlankLine t) ?_ ?_ ?_ s
  · exact ⟨rfl, hasNoBlankLine_nil⟩
  · intro printed rest a _ read ⟨breaks, clear⟩
    obtain ⟨run, blank, split, none⟩ := blankLines?_eq_some read
    have before : leadingBreaks (printed ++ rest) = 1 + (run.count '\n' + (1 + 0)) := by
      rw [split, leadingBreaks_newline, leadingBreaks_blank_append blank, leadingBreaks_newline,
        none]
    have after : leadingBreaks ('\n' :: substitute blankLines? (fun _ => ['\n']) rest) = 1 := by
      rw [leadingBreaks_newline, breaks, none]
      rfl
    constructor
    · rw [before, List.singleton_append, after]
      omega
    · exact hasNoBlankLine_cons.mpr ⟨after.le, clear⟩
  · intro c s missed ⟨breaks, clear⟩
    -- Where no blank line is taken out, a line break may still stand, but never a second one.
    have front : leadingBreaks (c :: substitute blankLines? (fun _ => ['\n']) s) =
        min 1 (leadingBreaks (c :: s)) := by
      by_cases blank : isBlank c = true
      · by_cases isBreak : c = '\n'
        · subst isBreak
          have none := leadingBreaks_of_blankLines?_eq_none missed
          rw [leadingBreaks_newline, leadingBreaks_newline, breaks, none]
          rfl
        · rw [leadingBreaks_cons_of_blank blank isBreak, leadingBreaks_cons_of_blank blank isBreak,
            breaks]
      · have solid : isBlank c = false := by simpa using blank
        rw [leadingBreaks_cons_of_solid solid, leadingBreaks_cons_of_solid solid]
        rfl
    refine ⟨front, hasNoBlankLine_cons.mpr ⟨?_, clear⟩⟩
    omega

/-! ### Wide spaces -/

def IsInline (c : Char) : Prop := c = ' ' ∨ c = '\t'

/-- Neighbours that are not both a space or a tab. -/
def NotBothInline (a b : Char) : Prop := ¬ (IsInline a ∧ IsInline b)

theorem IsInline.isBlank {c : Char} (h : IsInline c) : isBlank c = true := by
  rcases h with rfl | rfl <;> rfl

theorem IsInline.ne_newline {c : Char} (h : IsInline c) : c ≠ '\n' := by
  rcases h with rfl | rfl <;> decide

/-- Spaces and tabs are taken as long as they follow each other. -/
theorem inlineSpace?_eq_some {s rest : List Char} (h : inlineSpace? s = some ((), rest)) :
    ∃ run, run ≠ [] ∧ (∀ c ∈ run, IsInline c) ∧ s = run ++ rest ∧
      ∀ c ∈ rest.head?, ¬ IsInline c := by
  simp only [inlineSpace?] at h
  split at h
  · cases h
  · rename_i nonempty
    obtain rfl := (Prod.mk.inj (Option.some.inj h)).2
    refine ⟨_, by simpa using nonempty, fun c hc => ?_, List.takeWhile_append_dropWhile.symm, ?_⟩
    · simpa [IsInline] using List.mem_takeWhile_imp hc
    · intro c head
      simpa [IsInline] using head_dropWhile c head

theorem takes_inlineSpace? : Takes inlineSpace? := by
  intro s _ rest h
  obtain ⟨run, nonempty, -, split, -⟩ := inlineSpace?_eq_some h
  exact ⟨run, nonempty, split⟩

theorem not_isInline_of_inlineSpace?_eq_none {c : Char} {s : List Char}
    (h : inlineSpace? (c :: s) = none) : ¬ IsInline c := by
  intro inline
  have space : (c == ' ' || c == '\t') = true := by simpa [IsInline] using inline
  simp [inlineSpace?, space] at h

/-- What the pass over spaces and tabs keeps of a text, and what it leaves. -/
structure NarrowsTo (s t : List Char) : Prop where
  leadingBreaks_eq : leadingBreaks t = leadingBreaks s
  clear : HasNoBlankLine s → HasNoBlankLine t
  head : (∀ c ∈ s.head?, ¬ IsInline c) → ∀ c ∈ t.head?, ¬ IsInline c
  chain : List.IsChain NotBothInline t

theorem narrowSpaces (s : List Char) :
    NarrowsTo s (substitute inlineSpace? (fun _ => [' ']) s) := by
  refine substitute_cons_induction (f := fun _ => [' ']) takes_inlineSpace? (P := NarrowsTo)
    ?_ ?_ ?_ s
  · exact ⟨rfl, id, fun _ => by simp, .nil⟩
  · intro printed rest a nonempty read ih
    obtain ⟨run, -, inline, split, stop⟩ := inlineSpace?_eq_some read
    obtain rfl := List.append_cancel_right split
    have same : ∀ t, leadingBreaks (' ' :: t) = leadingBreaks t :=
      leadingBreaks_cons_of_blank rfl (by decide)
    -- Inline blanks hold no line break, so a run and its space say the same about the lines around.
    have noBreak : printed.count '\n' = 0 :=
      List.count_eq_zero.mpr fun isBreak => (inline '\n' isBreak).ne_newline rfl
    have before : leadingBreaks (printed ++ rest) = leadingBreaks rest := by
      rw [leadingBreaks_blank_append fun c hc => (inline c hc).isBlank, noBreak, Nat.zero_add]
    rw [List.singleton_append]
    constructor
    · rw [same, before, ih.leadingBreaks_eq]
    · intro clear
      have behind := clear.of_suffix (List.suffix_append printed rest)
      refine hasNoBlankLine_cons.mpr ⟨?_, ih.clear behind⟩
      rw [same, ih.leadingBreaks_eq]
      exact behind _ List.suffix_rfl
    · intro none
      obtain ⟨c, printed, rfl⟩ := List.exists_cons_of_ne_nil nonempty
      exact absurd (inline c List.mem_cons_self) (none c rfl)
    · exact List.isChain_cons.mpr ⟨fun c hc both => ih.head stop c hc both.2, ih.chain⟩
  · intro c s missed ih
    have other := not_isInline_of_inlineSpace?_eq_none missed
    have front := leadingBreaks_cons_congr ih.leadingBreaks_eq c
    constructor
    · exact front
    · intro clear
      obtain ⟨start, rest⟩ := hasNoBlankLine_cons.mp clear
      exact hasNoBlankLine_cons.mpr ⟨front ▸ start, ih.clear rest⟩
    · intro _ d head
      obtain rfl : c = d := by simpa using head
      exact other
    · exact List.isChain_cons.mpr ⟨fun d _ both => other both.1, ih.chain⟩

/-! ### The text of an element -/

/-- The parts of a tree as they are laid out, before anything is tidied. -/
def laidOut (n : Node) : List Char := (Piece.parts n).flatMap Piece.laidOut

theorem strip_newline (s : List Char) : strip ('\n' :: s) = strip s :=
  List.filter_cons_of_neg (by decide)

theorem strip_laidOut (n : Node) : strip (laidOut n) = strip n.content := by
  rw [laidOut, Piece.strip_flatMap_laidOut, Piece.flatMap_text_parts, Node.content]

/-- What is trimmed in the end is laid out from the tree, with other blanks in the same places. -/
theorem exists_lines (n : Node) : ∃ s, lines n = trim (substitute inlineSpace? (fun _ => [' '])
      (substitute blankLines? (fun _ => ['\n']) s)) ∧
    SameBlanks ('\n' :: s) ('\n' :: laidOut n) :=
  ⟨_, rfl, Piece.sameBlanks_addNode [] n⟩

theorem sameBlanks_passes (s : List Char) :
    SameBlanks (substitute inlineSpace? (fun _ => [' '])
      (substitute blankLines? (fun _ => ['\n']) s)) s := by
  refine (sameBlanks_substitute takes_inlineSpace? ?_ ?_ ?_ _).trans
    (sameBlanks_substitute takes_blankLines? ?_ ?_ ?_ s)
  · intro printed rest _ read c hc
    obtain ⟨run, -, inline, split, -⟩ := inlineSpace?_eq_some read
    rw [List.append_cancel_right split] at hc
    exact (inline c hc).isBlank
  · simp
  · simp [isBlank]
  · intro printed rest _ read c hc
    obtain ⟨run, blank, split, -⟩ := blankLines?_eq_some read
    have taken : printed = '\n' :: (run ++ ['\n']) :=
      List.append_cancel_right (split.trans (by simp))
    rw [taken] at hc
    rcases List.mem_cons.mp hc with rfl | later
    · rfl
    · rcases List.mem_append.mp later with inRun | last
      · exact blank c inRun
      · rw [List.mem_singleton.mp last]
        rfl
  · simp
  · simp [isBlank]

/-- The words of the text break where the parts of the tree are apart. -/
theorem breaksAt_lines {n : Node} {i : Nat} : BreaksAt (lines n) i ↔ BreaksAt (laidOut n) i := by
  obtain ⟨s, eq, same⟩ := exists_lines n
  have line : ∀ c ∈ ['\n'], isBlank c = true := by simp [isBlank]
  calc BreaksAt (lines n) i ↔ BreaksAt s i := by
        rw [eq, breaksAt_trim, (sameBlanks_passes s).breaksAt_iff]
    _ ↔ BreaksAt ('\n' :: s) i := (breaksAt_blank_append line).symm
    _ ↔ BreaksAt ('\n' :: laidOut n) i := same.breaksAt_iff
    _ ↔ BreaksAt (laidOut n) i := breaksAt_blank_append line

/-- Nothing but blanks is lost or put in. -/
theorem strip_lines (n : Node) : strip (lines n) = strip n.content := by
  obtain ⟨s, eq, same⟩ := exists_lines n
  have inner : strip s = strip (laidOut n) := by
    rw [← strip_newline s, same.strip_eq, strip_newline]
  rw [eq, strip_trim, (sameBlanks_passes s).strip_eq, inner, strip_laidOut]

/-- A text without blanks around it, without blank lines and without wide spaces. -/
structure IsTidyText (s : List Char) : Prop where
  head : ∀ c ∈ s.head?, isBlank c = false
  last : ∀ c ∈ s.getLast?, isBlank c = false
  noBlankLine : ∀ run, run <:+: s → (∀ c ∈ run, isBlank c = true) → run.count '\n' ≤ 1
  narrow : ∀ a b, [a, b] <:+: s → ¬ (IsInline a ∧ IsInline b)

/-- The text of an element holds the characters of its text nodes in document order, blanks apart,
and it is tidy: it has no blanks around it, two line breaks never stand in one run of blanks, and a
space or a tab never stands next to another. -/
theorem lines_keep_text (n : Node) : strip (lines n) = strip n.content ∧ IsTidyText (lines n) := by
  obtain ⟨s, eq, -⟩ := exists_lines n
  have narrow := narrowSpaces (substitute blankLines? (fun _ => ['\n']) s)
  have clear := narrow.clear (dropBlankLines s).2
  refine ⟨strip_lines n, ?_⟩
  rw [eq]
  constructor
  · exact isBlank_head_trim _
  · exact isBlank_last_trim _
  · intro run inside blank
    exact clear.count_le (inside.trans <| trim_infix _) blank
  · intro a b inside both
    have chain := narrow.chain.infix (inside.trans <| trim_infix _)
    simp only [List.isChain_pair] at chain
    exact chain both

end RouteAlerts.Schedule
