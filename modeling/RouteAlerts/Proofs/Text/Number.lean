import RouteAlerts.Proofs.Text.Digits
import RouteAlerts.Proofs.Text.Piece
import RouteAlerts.Proofs.Text.Scan

/-!
Numbers in a text. A `Numeral` is a number as people write it, and `number?` takes exactly such
numbers (`Numeral.number?_text`, `exists_numeral`). They are whole runs of digits, unless a comma of
the text has too many digits in front of it or behind it to mark a group of thousands
(`IsWellGrouped`).
-/

namespace RouteAlerts.Text

/-- A number as people write it: digits, and groups of a comma and three digits behind at most three
of them. -/
structure Numeral where
  first : List Char
  groups : List (List Char)
  nonempty : first ≠ []
  digits : ∀ c ∈ first, isDigit c = true
  short : groups ≠ [] → first.length ≤ 3
  threes : ∀ g ∈ groups, g.length = 3 ∧ ∀ c ∈ g, isDigit c = true

namespace Numeral

def text (n : Numeral) : List Char := n.first ++ n.groups.flatMap (',' :: ·)

/-- The digits of the number, without the commas. -/
def figures (n : Numeral) : List Char := n.first ++ n.groups.flatten

theorem isDigit_of_mem_figures {n : Numeral} {c : Char} (h : c ∈ n.figures) : isDigit c = true := by
  rcases List.mem_append.mp h with inFirst | inGroups
  · exact n.digits c inFirst
  · obtain ⟨g, hg, hc⟩ := List.mem_flatten.mp inGroups
    exact (n.threes g hg).2 c hc

theorem ne_comma_of_isDigit {c : Char} (h : isDigit c = true) : (c != ',') = true := by
  refine bne_iff_ne.mpr ?_
  rintro rfl
  exact absurd h (by decide +kernel)

/-- Only commas are between the digits. -/
theorem filter_text (n : Numeral) : n.text.filter (· != ',') = n.figures := by
  have own : ∀ {s : List Char}, (∀ c ∈ s, isDigit c = true) → s.filter (· != ',') = s :=
    fun digits => List.filter_eq_self.mpr fun c hc => ne_comma_of_isDigit (digits c hc)
  have groups : ∀ gs : List (List Char), (∀ g ∈ gs, ∀ c ∈ g, isDigit c = true) →
      (gs.flatMap (',' :: ·)).filter (· != ',') = gs.flatten := by
    intro gs digits
    induction gs with
    | nil => rfl
    | cons g gs ih =>
      rw [List.flatMap_cons, List.filter_append, List.filter_cons_of_neg (by decide),
        own (digits g List.mem_cons_self), ih fun g hg => digits g (List.mem_cons_of_mem _ hg)]
      rfl
  rw [text, List.filter_append, own n.digits, groups n.groups fun g hg => (n.threes g hg).2,
    figures]

theorem comma_mem_text_iff {n : Numeral} : ',' ∈ n.text ↔ n.groups ≠ [] := by
  constructor
  · intro comma ungrouped
    rw [text, ungrouped, List.flatMap_nil, List.append_nil] at comma
    have clear := ne_comma_of_isDigit (n.digits ',' comma)
    simp at clear
  · intro grouped
    obtain ⟨g, gs, eq⟩ := List.exists_cons_of_ne_nil grouped
    simp [text, eq]

/-- A number is read where it stands, if nothing behind it could belong to it. -/
theorem number?_text (n : Numeral) {rest : List Char}
    (noDigit : ∀ c ∈ rest.head?, isDigit c = false) (noComma : ∀ c ∈ rest.head?, c ≠ ',') :
    number? (n.text ++ rest) = some (n.text, rest) :=
  number?_groups n.nonempty n.digits n.short n.threes noDigit noComma

end Numeral

theorem head_digitRun? {s run rest : List Char} (h : digitRun? s = some (run, rest)) :
    ∀ c ∈ rest.head?, isDigit c = false := by
  simp only [digitRun?] at h
  split at h
  · cases h
  · obtain ⟨-, rfl⟩ : _ ∧ s.dropWhile isDigit = rest := by simpa using h
    exact head_dropWhile

theorem exists_groups_of_thousands (s : List Char) : ∃ groups : List (List Char),
    (∀ g ∈ groups, g.length = 3 ∧ ∀ c ∈ g, isDigit c = true) ∧
      (thousands s).1 = groups.flatMap (',' :: ·) := by
  fun_induction thousands s with
  | case1 a b c s digits groups rest eq ih =>
    obtain ⟨more, threes, made⟩ := ih
    rw [eq] at made
    refine ⟨[a, b, c] :: more, ?_, by simpa using made⟩
    rintro g (_ | ⟨_, hg⟩)
    · simpa [and_assoc] using digits
    · exact threes g hg
  | case2 => exact ⟨[], by simp, rfl⟩
  | case3 => exact ⟨[], by simp, rfl⟩

/-- What is taken is a number, and all of its digits when it has no groups. -/
theorem exists_numeral {s printed rest : List Char} (h : number? s = some (printed, rest)) :
    ∃ n : Numeral, printed = n.text ∧ s = n.text ++ rest ∧
      (n.groups = [] → ∀ c ∈ rest.head?, isDigit c = false) := by
  unfold number? at h
  split at h
  · cases h
  · rename_i run behind first
    obtain ⟨nonempty, digits, split⟩ := digitRun?_eq_some first
    have stop := head_digitRun? first
    split at h
    · rename_i short
      obtain ⟨groups, threes, made⟩ := exists_groups_of_thousands behind
      have whole := thousands_append behind
      obtain ⟨rfl, rfl⟩ : run ++ (thousands behind).1 = printed ∧ (thousands behind).2 = rest := by
        simpa using h
      refine ⟨⟨run, groups, nonempty, digits, fun _ => short, threes⟩, ?_, ?_, fun ungrouped => ?_⟩
      · rw [Numeral.text, made]
      · rw [Numeral.text, ← made, List.append_assoc, whole, split]
      · obtain rfl : groups = [] := ungrouped
        rw [made, List.flatMap_nil, List.nil_append] at whole
        rwa [whole]
    · obtain ⟨rfl, rfl⟩ : run = printed ∧ behind = rest := by simpa using h
      refine ⟨⟨run, [], nonempty, digits, fun grouped => absurd rfl grouped, by simp⟩, ?_, ?_,
        fun _ => stop⟩
      · simp [Numeral.text]
      · simp [Numeral.text, split]

/-! ### Well-grouped texts -/

/-- No run of more than three digits has a group of thousands behind it, and no group of thousands
behind a digit goes on with another digit. -/
structure IsWellGrouped (s : List Char) : Prop where
  front : ∀ run g : List Char, run.length = 4 → g.length = 3 → (∀ c ∈ run ++ g, isDigit c = true) →
    ¬ run ++ ',' :: g <:+: s
  back : ∀ (d : Char) (g : List Char), g.length = 4 → (∀ c ∈ d :: g, isDigit c = true) →
    ¬ d :: ',' :: g <:+: s

theorem IsWellGrouped.mono {s t : List Char} (h : IsWellGrouped s) (stands : t <:+: s) :
    IsWellGrouped t where
  front run g four three digits inT := h.front run g four three digits (inT.trans stands)
  back d g four digits inT := h.back d g four digits (inT.trans stands)

/-- Without commas there are no groups at all. -/
theorem isWellGrouped_of_no_comma {s : List Char} (h : ',' ∉ s) : IsWellGrouped s where
  front run g _ _ _ inS := h (inS.subset (by simp))
  back d g _ _ inS := h (inS.subset (by simp))

example : IsWellGrouped "시청 1500명".toList := isWellGrouped_of_no_comma (by decide)

/-- A number with groups is a group of thousands behind a shorter number. -/
theorem Numeral.exists_dropLast {n : Numeral} (h : n.groups ≠ []) : ∃ (m : Numeral) (g : List Char),
    g.length = 3 ∧ (∀ c ∈ g, isDigit c = true) ∧ n.text = m.text ++ ',' :: g := by
  have split := List.dropLast_concat_getLast h
  have last := n.threes _ (List.getLast_mem h)
  refine ⟨{ n with
    groups := n.groups.dropLast
    short := fun _ => n.short h
    threes := fun g hg => n.threes g (List.dropLast_subset _ hg) },
    n.groups.getLast h, last.1, last.2, ?_⟩
  have written : (n.groups.dropLast ++ [n.groups.getLast h]).flatMap (',' :: ·) =
      n.groups.dropLast.flatMap (',' :: ·) ++ ',' :: n.groups.getLast h := by simp
  rw [split] at written
  rw [text, text, written, List.append_assoc]

/-- A number ends with a digit. -/
theorem Numeral.exists_last (n : Numeral) :
    ∃ front d, n.text = front ++ [d] ∧ isDigit d = true := by
  have last : ∀ {s : List Char}, s ≠ [] → (∀ c ∈ s, isDigit c = true) →
      ∃ front d, s = front ++ [d] ∧ isDigit d = true := fun nonempty digits =>
    ⟨_, _, (List.dropLast_concat_getLast nonempty).symm, digits _ (List.getLast_mem nonempty)⟩
  by_cases ungrouped : n.groups = []
  · obtain ⟨front, d, split, digit⟩ := last n.nonempty n.digits
    exact ⟨front, d, by simp [text, ungrouped, split], digit⟩
  · obtain ⟨m, g, three, digits, split⟩ := exists_dropLast ungrouped
    have nonempty : g ≠ [] := List.ne_nil_of_length_pos (by omega)
    obtain ⟨front, d, rfl, digit⟩ := last nonempty digits
    exact ⟨m.text ++ ',' :: front, d, by simp [split], digit⟩

/-- In a well-grouped text no digit stands right behind a number. -/
theorem isDigit_head_of_number? {s printed rest : List Char} (grouped : IsWellGrouped s)
    (h : number? s = some (printed, rest)) : ∀ c ∈ rest.head?, isDigit c = false := by
  obtain ⟨n, rfl, rfl, maximal⟩ := exists_numeral h
  by_cases ungrouped : n.groups = []
  · exact maximal ungrouped
  · intro c head
    obtain ⟨tail, rfl⟩ := List.head?_eq_some_iff.mp head
    refine Bool.eq_false_iff.mpr fun digit => ?_
    -- The last group and the digit behind it would be a group of four.
    obtain ⟨m, g, three, digits, split⟩ := Numeral.exists_dropLast ungrouped
    obtain ⟨front, d, last, dDigit⟩ := m.exists_last
    refine grouped.back d (g ++ [c]) (by simp [three]) ?_ ⟨front, tail, by simp [split, last]⟩
    simp only [List.mem_cons, List.mem_append, List.mem_nil_iff, or_false]
    rintro e (rfl | inGroup | rfl)
    · exact dDigit
    · exact digits e inGroup
    · exact digit

/-- In a well-grouped text a digit in front of a number belongs to it. -/
theorem Numeral.exists_cons {n : Numeral} {d : Char} {rest : List Char} (digit : isDigit d = true)
    (grouped : IsWellGrouped (d :: n.text ++ rest)) : ∃ m : Numeral, m.text = d :: n.text := by
  have digits : ∀ c ∈ d :: n.first, isDigit c = true := by
    rintro c (_ | ⟨_, inFirst⟩)
    · exact digit
    · exact n.digits c inFirst
  have short : n.groups ≠ [] → (d :: n.first).length ≤ 3 := by
    intro nonempty
    refine Nat.succ_le_of_lt (Nat.lt_of_le_of_ne (n.short nonempty) fun three => ?_)
    -- The digit would be the fourth one in front of the first group.
    obtain ⟨g, gs, eq⟩ := List.exists_cons_of_ne_nil nonempty
    have group := n.threes g (by simp [eq])
    refine grouped.front (d :: n.first) g (by simp [three]) group.1 ?_
      ⟨[], gs.flatMap (',' :: ·) ++ rest, by simp [text, eq]⟩
    intro c hc
    rcases List.mem_append.mp hc with inRun | inGroup
    · exact digits c inRun
    · exact group.2 c inGroup
  exact ⟨⟨d :: n.first, n.groups, List.cons_ne_nil d n.first, digits, short, n.threes⟩, rfl⟩

theorem isDigit_of_number?_eq_none {c : Char} {s : List Char} (h : number? (c :: s) = none) :
    isDigit c = false := by
  refine Bool.eq_false_iff.mpr fun digit => ?_
  simp only [number?, digitRun?, List.takeWhile_cons_of_pos digit] at h
  simp only [List.isEmpty_cons, Bool.false_eq_true, if_false] at h
  split at h <;> cases h

/-- A stretch without numbers does not end with a digit. -/
theorem isDigit_last_of_silent {gap rest : List Char} (silent : Silent number? gap rest) :
    ∀ c ∈ gap.getLast?, isDigit c = false := by
  intro c last
  obtain ⟨front, rfl⟩ := List.getLast?_eq_some_iff.mp last
  exact isDigit_of_number?_eq_none (silent [c] (List.suffix_append front [c]) (by simp))

/-- In a well-grouped text no number is found right behind a digit. -/
theorem isDigit_last_of_scan {s gap : List Char} {earlier later : List (Found (List Char))}
    {f : Found (List Char)} (grouped : IsWellGrouped s)
    (h : Scan number? s gap (earlier ++ f :: later)) :
    ∀ c ∈ (gap ++ shown earlier).getLast?, isDigit c = false := by
  induction earlier generalizing s gap with
  | nil =>
    cases h with
    | next silent =>
      rw [shown_nil, List.append_nil]
      exact isDigit_last_of_silent silent
  | cons g earlier ih =>
    cases h with
    | @next _ printed text behind _ _ silent nonempty read rest =>
      have inText : printed ++ text <:+: gap ++ (printed ++ text) :=
        (List.suffix_append gap _).isInfix
      have inRest : text <:+: gap ++ (printed ++ text) :=
        (List.suffix_append printed text).isInfix.trans inText
      have rest : Scan number? text behind (earlier ++ f :: later) := rest
      have noDigit := ih (grouped.mono inRest) rest
      rw [shown_cons]
      by_cases direct : behind ++ shown earlier = []
      · -- The number would start with a digit right behind this one.
        obtain ⟨rfl, none⟩ := List.append_eq_nil_iff.mp direct
        obtain ⟨-, next⟩ := rest.read_found
        have goesOn : text = f.printed ++ (f.behind ++ shown later) := by
          rw [rest.eq_append, shown_append, none]
          simp
        rw [← goesOn, number?_eq_none (isDigit_head_of_number? (grouped.mono inText) read)] at next
        cases next
      · rwa [← List.append_assoc, List.getLast?_append_of_ne_nil _ direct]

/-! ### The numbers of a text -/

/-- One of the numbers that are found in a text from left to right. -/
structure NumberIn (s : List Char) where
  gap : List Char
  earlier : List (Found (List Char))
  number : Numeral
  behind : List Char
  later : List (Found (List Char))
  scan : Scan number? s gap (earlier ++ ⟨number.text, number.text, behind⟩ :: later)

namespace NumberIn

variable {s : List Char} (n : NumberIn s)

def found : Found (List Char) := ⟨n.number.text, n.number.text, n.behind⟩

def before : List Char := n.gap ++ shown n.earlier

def after : List Char := n.behind ++ shown n.later

theorem eq_append : s = n.before ++ (n.number.text ++ n.after) := by
  refine n.scan.eq_append.trans ?_
  simp [before, after]

/-- In a well-grouped text the numbers are whole runs of digits. -/
theorem whole (grouped : IsWellGrouped s) : (∀ c ∈ n.before.getLast?, isDigit c = false) ∧
    ∀ c ∈ n.after.head?, isDigit c = false := by
  have inText : n.number.text ++ n.after <:+: s := ⟨n.before, [], by simp [← n.eq_append]⟩
  exact ⟨isDigit_last_of_scan grouped n.scan,
    isDigit_head_of_number? (grouped.mono inText) n.scan.read_found.2⟩

end NumberIn

theorem takes_number? : Takes number? := fun _ _ _ read =>
  ⟨_, number?_eq_some read⟩

/-- Everything that is found in a text is a number, as it is printed. -/
theorem exists_numeral_of_scan {s gap : List Char} {found : List (Found (List Char))}
    (h : Scan number? s gap found) :
    ∀ f ∈ found, ∃ (n : Numeral) (behind : List Char), f = ⟨n.text, n.text, behind⟩ := by
  rintro ⟨value, printed, behind⟩ hf
  have takes : ∀ s a rest, number? s = some (a, rest) →
      ∃ printed, (∃ n : Numeral, printed = n.text ∧ a = n.text) ∧ s = printed ++ rest := by
    intro s a rest read
    obtain ⟨n, own, split, -⟩ := exists_numeral read
    exact ⟨n.text, ⟨n, rfl, own⟩, split⟩
  obtain ⟨n, rfl, rfl⟩ := h.forall_found takes _ hf
  exact ⟨n, behind, rfl⟩

/-- The numbers of a text are the matches of any scan of it. -/
theorem NumberIn.eq_found {s gap : List Char} {found : List (Found (List Char))} (n : NumberIn s)
    (h : Scan number? s gap found) : n.gap = gap ∧
      n.earlier ++ n.found :: n.later = found := by
  have rebuilt : ∀ {gap : List Char} {found : List (Found (List Char))},
      Scan number? s gap found → found = (cut number? s).2.map fun p => ⟨p.1, p.1, p.2⟩ := by
    intro gap found h
    rw [h.cut_eq, List.map_map]
    refine ((List.map_congr_left fun f hf => ?_).trans (List.map_id found)).symm
    obtain ⟨m, behind, rfl⟩ := exists_numeral_of_scan h f hf
    rfl
  have gaps := n.scan.cut_eq.symm.trans h.cut_eq
  exact ⟨(Prod.mk.inj gaps).1, (rebuilt n.scan).trans (rebuilt h).symm⟩

/-- A match of a scan is a number of the text. -/
theorem exists_numberIn {s gap : List Char} {earlier later : List (Found (List Char))}
    {f : Found (List Char)} (h : Scan number? s gap (earlier ++ f :: later)) :
    ∃ n : NumberIn s, n.number.text = f.printed ∧ n.before = gap ++ shown earlier ∧
      n.after = f.behind ++ shown later := by
  obtain ⟨m, behind, rfl⟩ := exists_numeral_of_scan h f (by simp)
  exact ⟨⟨gap, earlier, m, behind, later, h⟩, rfl, rfl, rfl⟩

end RouteAlerts.Text
