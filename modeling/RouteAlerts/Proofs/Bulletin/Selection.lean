import RouteAlerts.Proofs.Bulletin.Headcount
import RouteAlerts.Proofs.Text.Number

/-!
Which number of a text is its attendance figure. The first number with the counter for people behind
it is, if its value can be read; a later one with a counter is not looked at. Without such a figure
it is the first bare number that counts as a crowd (`find?_selects`). The number is a whole run of
digits where the text is well grouped.
-/

namespace RouteAlerts

open Text

namespace Headcount

variable {block : List Char}

/-! ### Values -/

/-- What a printed number is worth. Its digits are ASCII digits, and its value is below the
bound. -/
structure Reads (n : Numeral) (v : Nat) : Prop where
  ascii : ∀ c ∈ n.figures, isAsciiDigit c = true
  value : digitsToNat n.figures = v
  below : v < bound

theorem value?_eq_some_iff {n : Numeral} {v : Nat} : value? n.text = some v ↔ Reads n v := by
  have nonempty : n.figures ≠ [] := List.append_ne_nil_of_left_ne_nil n.nonempty _
  have noSign : n.figures.head? ≠ some '+' := by
    intro sign
    have digit := Numeral.isDigit_of_mem_figures (List.mem_of_mem_head? sign)
    exact absurd digit (by decide +kernel)
  rw [value?, n.filter_text, readNat?_eq_some_iff noSign]
  exact ⟨fun ⟨_, ascii, value, below⟩ => ⟨ascii, value, below⟩,
    fun h => ⟨nonempty, h.ascii, h.value, h.below⟩⟩

/-! ### Numbers with the counter -/

/-- A place in a text where a number stands with the counter for people behind it. -/
structure Counted (block : List Char) where
  before : List Char
  number : Numeral
  gap : List Char
  after : List Char
  blank : ∀ c ∈ gap, isBlank c = true
  split : block = before ++ (number.text ++ gap ++ '명' :: after)

namespace Counted

def span (c : Counted block) : List Char := c.number.text ++ c.gap ++ ['명']

def behind (c : Counted block) : List Char := c.gap ++ '명' :: c.after

def figure (c : Counted block) (v : Nat) : Headcount := ⟨v, c.before, c.span, c.after⟩

/-- No such place starts further in front. -/
def IsFirst (c : Counted block) : Prop := ∀ d : Counted block, c.before.length ≤ d.before.length

end Counted

/-- Nothing of a number is in front of a counter. -/
theorem clear_behind {gap : List Char} (blank : ∀ c ∈ gap, isBlank c = true) (after : List Char) :
    ∀ c ∈ (gap ++ '명' :: after).head?, isDigit c = false ∧ c ≠ ',' := by
  intro c head
  cases gap with
  | nil =>
    obtain rfl : '명' = c := by simpa using head
    exact ⟨by decide +kernel, by decide⟩
  | cons d gap =>
    obtain rfl : d = c := by simpa using head
    have space := blank d List.mem_cons_self
    refine ⟨isDigit_eq_false_of_isBlank space, ?_⟩
    rintro rfl
    exact absurd space (by decide)

/-- A number is read up to the counter behind it. -/
theorem counted?_numeral (n : Numeral) {gap : List Char} (blank : ∀ c ∈ gap, isBlank c = true)
    (after : List Char) : counted? (n.text ++ gap ++ '명' :: after) =
      some ((n.text, n.text ++ gap ++ ['명']), after) := by
  have clear := clear_behind blank after
  have read := n.number?_text (fun c hc => (clear c hc).1) fun c hc => (clear c hc).2
  have stop : ∀ c ∈ ('명' :: after).head?, isBlank c = false := by
    intro c head
    obtain rfl : '명' = c := by simpa using head
    decide
  rw [List.append_assoc, counted?, read]
  simp only [Option.bind_eq_bind, Option.bind_some, takeWhile_append_stop blank stop,
    dropWhile_append_stop blank stop]

theorem exists_numeral_of_counted? {s printed span rest : List Char}
    (h : counted? s = some ((printed, span), rest)) :
    ∃ (n : Numeral) (gap : List Char), (∀ c ∈ gap, isBlank c = true) ∧ printed = n.text ∧
      span = n.text ++ gap ++ ['명'] ∧ s = n.text ++ gap ++ '명' :: rest := by
  obtain ⟨split, gap, blank, counter⟩ := counted?_eq_some h
  simp only [counted?, Option.bind_eq_bind] at h
  obtain ⟨⟨number, tail⟩, read, eq⟩ := Option.bind_eq_some_iff.mp h
  obtain ⟨n, own, -⟩ := exists_numeral read
  obtain rfl : number = printed := by
    simp only at eq
    split at eq
    · exact (Prod.mk.inj (Prod.mk.inj (Option.some.inj eq)).1).1
    · cases eq
  subst own counter split
  exact ⟨n, gap, blank, rfl, rfl, by simp⟩

namespace Counted

theorem firstMatch_eq {c : Counted block} (first : c.IsFirst) :
    firstMatch counted? block = some (c.before, (c.number.text, c.span), c.after) := by
  refine firstMatch_eq_some_iff.mpr
    ⟨_, by simp, c.split, counted?_numeral c.number c.blank c.after, fun t suffix nonempty => ?_⟩
  -- Another number with its counter would start inside the text in front.
  refine Option.eq_none_iff_forall_ne_some.mpr fun ⟨⟨printed, span⟩, rest⟩ read => ?_
  obtain ⟨m, gap, blank, -, -, eq⟩ := exists_numeral_of_counted? read
  obtain ⟨before, passed⟩ := suffix
  have split : block = before ++ (m.text ++ gap ++ '명' :: rest) := by
    rw [← eq, ← List.append_assoc, passed]
    exact c.split
  have further := first ⟨before, m, gap, rest, blank, split⟩
  have inFront := List.length_pos_iff.mpr nonempty
  rw [← passed, List.length_append] at further
  simp only at further
  omega

theorem exists_first {before printed span after : List Char}
    (h : firstMatch counted? block = some (before, (printed, span), after)) :
    ∃ c : Counted block, c.IsFirst ∧ before = c.before ∧ printed = c.number.text ∧ span = c.span ∧
      after = c.after := by
  obtain ⟨t, -, split, read, silent⟩ := firstMatch_eq_some_iff.mp h
  obtain ⟨n, gap, blank, rfl, rfl, rfl⟩ := exists_numeral_of_counted? read
  refine ⟨⟨before, n, gap, after, blank, split⟩, fun d => ?_, rfl, rfl, rfl, rfl⟩
  rcases List.append_eq_append_iff.mp (d.split.symm.trans split) with
    ⟨u, inFront, goesOn⟩ | ⟨u, further, -⟩
  · -- What lies between the two is nothing, since no match starts there.
    obtain rfl : u = [] := by
      by_contra nonempty
      have none := silent u ⟨d.before, inFront.symm⟩ nonempty
      rw [← goesOn, counted?_numeral d.number d.blank d.after] at none
      cases none
    simp [inFront]
  · simp [further]

theorem isDigit_head_behind (c : Counted block) : ∀ d ∈ c.behind.head?, isDigit d = false := by
  intro d head
  exact (clear_behind c.blank c.after d head).1

/-- In a well-grouped text the first number with its counter is a whole run of digits. -/
theorem isDigit_last_before {c : Counted block} (first : c.IsFirst)
    (grouped : IsWellGrouped block) : ∀ d ∈ c.before.getLast?, isDigit d = false := by
  intro d last
  refine Bool.eq_false_iff.mpr fun digit => ?_
  obtain ⟨front, before⟩ := List.getLast?_eq_some_iff.mp last
  have split : block = front ++ (d :: c.number.text ++ c.behind) := by
    refine c.split.trans ?_
    rw [before, behind]
    simp
  have stands : d :: c.number.text ++ c.behind <:+: block := ⟨front, [], by
    rw [List.append_nil]
    exact split.symm⟩
  obtain ⟨m, longer⟩ := Numeral.exists_cons digit (grouped.mono stands)
  have splitThere : block = front ++ (m.text ++ c.gap ++ '명' :: c.after) := by
    refine split.trans ?_
    rw [longer, behind, List.append_assoc]
  have further := first ⟨front, m, c.gap, c.after, c.blank, splitThere⟩
  rw [before, List.length_append, List.length_singleton] at further
  exact absurd further (Nat.not_succ_le_self _)

end Counted

/-- The first number with its counter cannot be read, if there is one at all. -/
def IsUncounted (block : List Char) : Prop :=
  ∀ c : Counted block, c.IsFirst → ∀ v, ¬ Reads c.number v

theorem find?_of_counted {c : Counted block} {v : Nat} (first : c.IsFirst)
    (reads : Reads c.number v) : find? block = some (c.figure v) := by
  have read := value?_eq_some_iff.mpr reads
  rw [find?, Counted.firstMatch_eq first]
  simp only [read]
  rfl

theorem find?_of_uncounted (h : IsUncounted block) :
    find? block = bare? (cut number? block).1 (cut number? block).2 := by
  unfold find?
  cases found : firstMatch counted? block with
  | none => rfl
  | some result =>
    obtain ⟨before, ⟨printed, span⟩, after⟩ := result
    obtain ⟨c, first, -, rfl, -, -⟩ := Counted.exists_first found
    have unread : value? c.number.text = none :=
      Option.eq_none_iff_forall_ne_some.mpr fun v read => h c first v (value?_eq_some_iff.mp read)
    simp [unread]

/-! ### Bare numbers -/

/-- A bare number that counts as a crowd, with what stands behind it. -/
structure IsCrowd (n : Numeral) (after : List Char) (v : Nat) : Prop where
  reads : Reads n v
  large : smallestBare ≤ v ∨ n.groups ≠ []
  noExit : after.head? ≠ some '出'

theorem bareValue?_eq_some_iff {n : Numeral} {after : List Char} {v : Nat} :
    bareValue? n.text after = some v ↔ IsCrowd n after v := by
  constructor
  · intro h
    unfold bareValue? at h
    split at h
    · cases h
    · rename_i noExit
      split at h
      · rename_i w read
        split at h
        · rename_i large
          obtain rfl := Option.some.inj h
          simp only [Bool.or_eq_true, decide_eq_true_eq, List.contains_iff_mem,
            Numeral.comma_mem_text_iff] at large
          exact ⟨value?_eq_some_iff.mp read, large, by simpa using noExit⟩
        · cases h
      · cases h
  · rintro ⟨reads, large, noExit⟩
    have read := value?_eq_some_iff.mpr reads
    have large : smallestBare ≤ v ∨ ',' ∈ n.text := large.imp_right Numeral.comma_mem_text_iff.mpr
    simp [bareValue?, noExit, read, large]

structure IsFirstCrowd (n : NumberIn block) (v : Nat) : Prop where
  crowd : IsCrowd n.number n.after v
  first : ∀ (m : NumberIn block) (w : Nat), IsCrowd m.number m.after w →
    n.before.length ≤ m.before.length

/-- The matches of a scan as the search goes through them. -/
def pairs (found : List (Found (List Char))) : List (List Char × List Char) :=
  found.map fun f => (f.printed, f.behind)

/-- None of the numbers that stand in front of `rest` counts as a crowd. -/
def ArePassed (earlier rest : List (Found (List Char))) : Prop :=
  ∀ e₁ g e₂, earlier = e₁ ++ g :: e₂ →
    bareValue? g.printed (g.behind ++ shown (e₂ ++ rest)) = none

theorem arePassed_cons {f : Found (List Char)} {earlier rest : List (Found (List Char))} :
    ArePassed (f :: earlier) rest ↔
      bareValue? f.printed (f.behind ++ shown (earlier ++ rest)) = none ∧
        ArePassed earlier rest := by
  constructor
  · intro h
    exact ⟨h [] f earlier rfl, fun e₁ g e₂ eq => h (f :: e₁) g e₂ (by rw [eq]; rfl)⟩
  · rintro ⟨head, tail⟩ e₁ g e₂ eq
    cases e₁ with
    | nil =>
      obtain ⟨rfl, rfl⟩ := List.cons.inj eq
      exact head
    | cons e e₁ => exact tail e₁ g e₂ (List.cons.inj eq).2

/-- The search stops at a number that counts, and else goes on behind it. -/
theorem bare?_pairs_cons (passed : List Char) (f : Found (List Char))
    (found : List (Found (List Char))) : bare? passed (pairs (f :: found)) =
      (bareValue? f.printed (f.behind ++ shown found)).elim
        (bare? (passed ++ f.printed ++ f.behind) (pairs found))
        fun v => some ⟨v, passed, f.printed, f.behind ++ shown found⟩ := by
  simp only [pairs, List.map_cons, bare?, List.flatMap_map, shown]
  cases bareValue? f.printed (f.behind ++ found.flatMap fun g => g.printed ++ g.behind) <;> rfl

/-- The search goes on behind numbers that do not count. -/
theorem bare?_passed {earlier rest : List (Found (List Char))} (h : ArePassed earlier rest)
    (passed : List Char) : bare? passed (pairs (earlier ++ rest)) =
      bare? (passed ++ shown earlier) (pairs rest) := by
  induction earlier generalizing passed with
  | nil => simp
  | cons f earlier ih =>
    obtain ⟨head, tail⟩ := arePassed_cons.mp h
    rw [List.cons_append, bare?_pairs_cons, head]
    simp [ih tail]

/-- Either no number counts, or there is a first one that does. -/
theorem arePassed_or_exists_first (found : List (Found (List Char))) : ArePassed found [] ∨
    ∃ earlier f later v, found = earlier ++ f :: later ∧ ArePassed earlier (f :: later) ∧
      bareValue? f.printed (f.behind ++ shown later) = some v := by
  induction found with
  | nil => exact .inl fun e₁ g e₂ eq => by simp at eq
  | cons f found ih =>
    cases worth : bareValue? f.printed (f.behind ++ shown found) with
    | some v =>
      exact .inr ⟨[], f, found, v, rfl, fun e₁ g e₂ eq => by simp at eq, worth⟩
    | none =>
      rcases ih with all | ⟨earlier, g, later, v, rfl, passed, value⟩
      · exact .inl (arePassed_cons.mpr ⟨by simpa using worth, all⟩)
      · exact .inr ⟨f :: earlier, g, later, v, rfl, arePassed_cons.mpr ⟨worth, passed⟩, value⟩

/-- The first number that counts is the one before which all are passed. -/
theorem isFirstCrowd_iff {n : NumberIn block} {v : Nat} :
    IsFirstCrowd n v ↔ IsCrowd n.number n.after v ∧ ArePassed n.earlier (n.found :: n.later) := by
  constructor
  · rintro ⟨crowd, first⟩
    refine ⟨crowd, fun e₁ g e₂ eq => Option.eq_none_iff_forall_ne_some.mpr fun w worth => ?_⟩
    have scan : Scan number? block n.gap (n.earlier ++ n.found :: n.later) := n.scan
    rw [eq, List.append_assoc, List.cons_append] at scan
    obtain ⟨m, printed, before, after⟩ := exists_numberIn scan
    rw [← printed, ← after, bareValue?_eq_some_iff] at worth
    have nonempty := List.length_pos_iff.mpr scan.read_found.1
    -- A crowd among the earlier numbers would stand further to the front than the first one.
    have further := first m w worth
    rw [before, NumberIn.before, eq] at further
    simp only [shown_append, shown_cons, List.length_append] at further
    omega
  · rintro ⟨crowd, passed⟩
    refine ⟨crowd, fun m w worth => ?_⟩
    obtain ⟨gap, same⟩ := m.eq_found n.scan
    rw [NumberIn.before, NumberIn.before, gap]
    rcases List.append_eq_append_iff.mp same with ⟨between, earlier, rest⟩ | ⟨between, earlier, -⟩
    · cases between with
      | nil => simp [earlier]
      | cons g between =>
        obtain ⟨rfl, later⟩ := List.cons.inj rest
        have none := passed _ _ _ earlier
        have after : m.after = m.behind ++ shown (between ++ n.found :: n.later) := by
          rw [NumberIn.after, later]
          rfl
        rw [← bareValue?_eq_some_iff, after] at worth
        cases worth.symm.trans none
    · simp [earlier]

/-- The numbers that `cut` finds are those of a scan. -/
theorem exists_scan_pairs (block : List Char) : ∃ found : List (Found (List Char)),
    Scan number? block (cut number? block).1 found ∧ (cut number? block).2 = pairs found := by
  obtain ⟨found, scan⟩ := exists_scan takes_number? block
  refine ⟨found, scan, ?_⟩
  rw [scan.cut_eq]
  refine List.map_congr_left fun f hf => ?_
  obtain ⟨n, behind, rfl⟩ := exists_numeral_of_scan scan f hf
  rfl

theorem bare?_eq_of_isFirstCrowd {n : NumberIn block} {v : Nat} (h : IsFirstCrowd n v) :
    bare? (cut number? block).1 (cut number? block).2 =
      some ⟨v, n.before, n.number.text, n.after⟩ := by
  obtain ⟨found, scan, made⟩ := exists_scan_pairs block
  obtain ⟨gap, rfl⟩ := n.eq_found scan
  obtain ⟨crowd, passed⟩ := isFirstCrowd_iff.mp h
  have worth : bareValue? n.found.printed (n.found.behind ++ shown n.later) = some v :=
    bareValue?_eq_some_iff.mpr crowd
  rw [made, ← gap, bare?_passed passed, bare?_pairs_cons, worth]
  rfl

/-- Either no bare number counts, or one of them is the first that does. -/
theorem bare?_eq_none_or_exists_first (block : List Char) :
    (bare? (cut number? block).1 (cut number? block).2 = none ∧
      ∀ (n : NumberIn block) (v : Nat), ¬ IsCrowd n.number n.after v) ∨
    ∃ (n : NumberIn block) (v : Nat), IsFirstCrowd n v := by
  obtain ⟨found, scan, made⟩ := exists_scan_pairs block
  rcases arePassed_or_exists_first found with passed | ⟨earlier, f, later, v, rfl, passed, worth⟩
  · refine .inl ⟨?_, fun n v crowd => ?_⟩
    · have all := bare?_passed passed (cut number? block).1
      rwa [List.append_nil, ← made] at all
    · obtain ⟨-, rfl⟩ := n.eq_found scan
      have none := passed _ _ _ rfl
      rw [List.append_nil] at none
      cases (bareValue?_eq_some_iff.mpr crowd).symm.trans none
  · obtain ⟨m, behind, rfl⟩ := exists_numeral_of_scan scan f (by simp)
    exact .inr ⟨⟨_, earlier, m, behind, later, scan⟩, v,
      isFirstCrowd_iff.mpr ⟨bareValue?_eq_some_iff.mp worth, passed⟩⟩

/-! ### The figure of a text -/

def bareFigure (n : NumberIn block) (v : Nat) : Headcount := ⟨v, n.before, n.number.text, n.after⟩

/-- The number of a figure, and what stands behind it. -/
def Shows (h : Headcount) (number : Numeral) (behind : List Char) : Prop :=
  (h.span = number.text ∧ behind = h.after) ∨
    ∃ gap, (∀ c ∈ gap, isBlank c = true) ∧ h.span = number.text ++ gap ++ ['명'] ∧
      behind = gap ++ '명' :: h.after

/-- A text has the figure of its first number with a counter, or that of its first crowd, or
none. -/
theorem find?_cases (block : List Char) :
    (∃ (c : Counted block) (v : Nat),
      c.IsFirst ∧ Reads c.number v ∧ find? block = some (c.figure v)) ∨
    (∃ (n : NumberIn block) (v : Nat),
      IsUncounted block ∧ IsFirstCrowd n v ∧ find? block = some (bareFigure n v)) ∨
    (IsUncounted block ∧ (∀ (n : NumberIn block) (v : Nat), ¬ IsCrowd n.number n.after v) ∧
      find? block = none) := by
  by_cases uncounted : IsUncounted block
  · rw [find?_of_uncounted uncounted]
    rcases bare?_eq_none_or_exists_first block with ⟨none, noCrowd⟩ | ⟨n, v, first⟩
    · exact .inr (.inr ⟨uncounted, noCrowd, none⟩)
    · exact .inr (.inl ⟨n, v, uncounted, first, bare?_eq_of_isFirstCrowd first⟩)
  · simp only [IsUncounted, not_forall, not_not] at uncounted
    obtain ⟨c, first, v, reads⟩ := uncounted
    exact .inl ⟨c, v, first, reads, find?_of_counted first reads⟩

/-- The number of a figure is printed in the text and has the value of the figure. -/
theorem exists_shows_of_find? {h : Headcount} (found : find? block = some h) :
    ∃ number behind, h.Shows number behind ∧ Reads number h.value ∧
      (IsWellGrouped block → (∀ c ∈ h.before.getLast?, isDigit c = false) ∧
        ∀ c ∈ behind.head?, isDigit c = false) := by
  rcases find?_cases block with ⟨c, v, first, reads, eq⟩ | ⟨n, v, -, first, eq⟩ | ⟨-, -, eq⟩
  · obtain rfl := Option.some.inj (found.symm.trans eq)
    exact ⟨c.number, c.behind, .inr ⟨c.gap, c.blank, rfl, rfl⟩, reads,
      fun grouped => ⟨c.isDigit_last_before first grouped, c.isDigit_head_behind⟩⟩
  · obtain rfl := Option.some.inj (found.symm.trans eq)
    exact ⟨n.number, n.after, .inl ⟨rfl, rfl⟩, first.crowd.reads, n.whole⟩
  · cases found.symm.trans eq

/-- The first number with a counter is the figure of a text if it can be read. If not, the first
bare number is that counts as a crowd. The number is a whole run of digits where the text is well
grouped. -/
theorem find?_selects (block : List Char) :
    (∀ h, find? block = some h ↔
      (∃ c : Counted block, c.IsFirst ∧ Reads c.number h.value ∧ h = c.figure h.value) ∨
      IsUncounted block ∧ ∃ n : NumberIn block, IsFirstCrowd n h.value ∧ h = bareFigure n h.value) ∧
    (find? block = none ↔
      IsUncounted block ∧ ∀ (n : NumberIn block) (v : Nat), ¬ IsCrowd n.number n.after v) ∧
    ∀ h, find? block = some h → block = h.before ++ h.span ++ h.after ∧
      ∃ number behind, h.Shows number behind ∧ Reads number h.value ∧
        (IsWellGrouped block → (∀ c ∈ h.before.getLast?, isDigit c = false) ∧
          ∀ c ∈ behind.head?, isDigit c = false) := by
  refine ⟨fun h => ⟨fun found => ?_, ?_⟩, ⟨fun none => ?_, ?_⟩,
    fun h found => ⟨(find?_eq_some found).1, exists_shows_of_find? found⟩⟩
  · rcases find?_cases block with
      ⟨c, v, first, reads, eq⟩ | ⟨n, v, uncounted, first, eq⟩ | ⟨-, -, eq⟩
    · obtain rfl := Option.some.inj (found.symm.trans eq)
      exact .inl ⟨c, first, reads, rfl⟩
    · obtain rfl := Option.some.inj (found.symm.trans eq)
      exact .inr ⟨uncounted, n, first, rfl⟩
    · cases found.symm.trans eq
  · rintro (⟨c, first, reads, eq⟩ | ⟨uncounted, n, first, eq⟩)
    · rw [find?_of_counted first reads, ← eq]
    · rw [find?_of_uncounted uncounted, bare?_eq_of_isFirstCrowd first, ← bareFigure, ← eq]
  · rcases find?_cases block with ⟨c, v, -, -, eq⟩ | ⟨n, v, -, -, eq⟩ | ⟨uncounted, noCrowd, -⟩
    · cases none.symm.trans eq
    · cases none.symm.trans eq
    · exact ⟨uncounted, noCrowd⟩
  · -- The cases leave nothing else: a figure of either kind would be one that was ruled out.
    rintro ⟨uncounted, noCrowd⟩
    rcases find?_cases block with ⟨c, v, first, reads, -⟩ | ⟨n, v, -, first, -⟩ | ⟨-, -, eq⟩
    · exact absurd reads (uncounted c first v)
    · exact absurd first.crowd (noCrowd n v)
    · exact eq

-- A group of four: the number ends inside a run of digits.
example : find? "1,2345".toList = some ⟨1234, [], "1,234".toList, ['5']⟩ := by decide +kernel

/-- The number fifty, as it is printed. -/
def fifty : Numeral where
  first := ['5', '0']
  groups := []
  nonempty := by decide
  digits := List.all_eq_true.mp (by decide +kernel)
  short := by decide
  threes := by simp

/-- A number with its counter is left out when one before it cannot be read. -/
theorem counted_left_out : ¬ ∀ (block : List Char) (c : Counted block) (v : Nat),
    Reads c.number v → find? block ≠ none := by
  intro h
  let c : Counted "99999999999명 50명".toList :=
    ⟨"99999999999명 ".toList, fifty, [], [], by simp, rfl⟩
  have reads : Reads c.number 50 := ⟨List.all_eq_true.mp (by decide), by decide, by decide⟩
  have none : find? "99999999999명 50명".toList = none := by decide +kernel
  exact h _ c 50 reads none

end Headcount

end RouteAlerts
