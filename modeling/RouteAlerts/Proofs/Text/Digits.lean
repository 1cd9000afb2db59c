import RouteAlerts.Proofs.Text.Blank
import RouteAlerts.Text.Digit

/-!
Digits and numbers. What `natDigits` and `padded` write is made of ASCII digits, has the width that
is asked for, and is read back by `digitsToNat`; `groupedDigits` has a comma before every group of
three. The readers of digits take what they say from the front of a text and leave the rest as it
is.
-/

namespace RouteAlerts.Text

/-! ### ASCII digits -/

theorem isAsciiDigit_iff {c : Char} : isAsciiDigit c = true ↔ 48 ≤ c.toNat ∧ c.toNat ≤ 57 := by
  simp only [isAsciiDigit, Bool.and_eq_true, decide_eq_true_eq, Char.le_def, UInt32.le_iff_toNat_le]
  exact Iff.rfl

/-- The ASCII digits are a block of decimal digits like any other. -/
theorem isDigit_of_isAsciiDigit {c : Char} (h : isAsciiDigit c = true) : isDigit c = true := by
  obtain ⟨low, high⟩ := isAsciiDigit_iff.mp h
  rw [isDigit, digitValue?, Option.isSome_map, List.find?_isSome]
  exact ⟨0x30, by simp [zeros], by simp; omega⟩

/-- No digit of any script is a blank. -/
theorem isBlank_eq_false_of_isDigit {c : Char} (h : isDigit c = true) : isBlank c = false := by
  rw [isDigit, digitValue?, Option.isSome_map, List.find?_isSome] at h
  obtain ⟨block, hblock, inBlock⟩ := h
  simp only [Bool.and_eq_true, decide_eq_true_eq] at inBlock
  have blocks : ∀ z ∈ zeros, ∀ k < 10, isBlank (Char.ofNat (z + k)) = false := by decide +kernel
  have clear := blocks block hblock (c.toNat - block) (by omega)
  rwa [Nat.add_sub_cancel' inBlock.1, Char.ofNat_toNat] at clear

theorem isDigit_eq_false_of_isBlank {c : Char} (h : isBlank c = true) : isDigit c = false := by
  refine Bool.eq_false_iff.mpr fun digit => ?_
  rw [isBlank_eq_false_of_isDigit digit] at h
  cases h

theorem isBlank_eq_false_of_isAsciiDigit {c : Char} (h : isAsciiDigit c = true) :
    isBlank c = false :=
  isBlank_eq_false_of_isDigit (isDigit_of_isAsciiDigit h)

theorem digitValue?_of_isAsciiDigit {c : Char} (h : isAsciiDigit c = true) :
    digitValue? c = some (c.toNat - 48) := by
  obtain ⟨low, high⟩ := isAsciiDigit_iff.mp h
  have block : zeros.find? (fun z => z ≤ c.toNat && c.toNat ≤ z + 9) = some 48 :=
    List.find?_cons_of_pos (by simp; omega)
  rw [digitValue?, block]
  rfl

theorem trim_digits {s : List Char} (digits : ∀ c ∈ s, isDigit c = true) : trim s = s := by
  apply trim_eq_self
  · intro c head
    exact isBlank_eq_false_of_isDigit (digits c (List.mem_of_mem_head? head))
  · intro c last
    exact isBlank_eq_false_of_isDigit (digits c (List.mem_of_getLast? last))

/-! ### Written numbers -/

theorem isAsciiDigit_of_mem_natDigits {n : Nat} {c : Char} (h : c ∈ natDigits n) :
    isAsciiDigit c = true := by
  have digit : c.isDigit = true := Nat.isDigit_of_mem_toDigits (by decide) (by decide) h
  simp only [Char.isDigit, Bool.and_eq_true, decide_eq_true_eq, UInt32.le_iff_toNat_le] at digit
  exact isAsciiDigit_iff.mpr ⟨digit.1, digit.2⟩

theorem isAsciiDigit_of_mem_padded {width n : Nat} {c : Char} (h : c ∈ padded width n) :
    isAsciiDigit c = true := by
  rcases List.mem_append.mp h with zero | digit
  · rw [List.eq_of_mem_replicate zero]
    decide
  · exact isAsciiDigit_of_mem_natDigits digit

theorem natDigits_ne_nil (n : Nat) : natDigits n ≠ [] := Nat.toDigits_ne_nil

/-- A number of fixed width starts with a digit. -/
theorem isAsciiDigit_head_padded {width n : Nat} {rest : List Char} :
    ∀ c ∈ (padded width n ++ rest).head?, isAsciiDigit c = true := by
  intro c head
  cases written : padded width n with
  | nil => simp [padded, natDigits_ne_nil] at written
  | cons d s =>
    rw [written] at head
    obtain rfl : d = c := by simpa using head
    have own : d ∈ padded width n := by simp [written]
    exact isAsciiDigit_of_mem_padded own

theorem trimStart_padded {width n : Nat} {rest : List Char} :
    trimStart (padded width n ++ rest) = padded width n ++ rest :=
  dropWhile_eq_self fun c head =>
    isBlank_eq_false_of_isAsciiDigit (isAsciiDigit_head_padded c head)

/-- A number below ten to the width takes exactly the width. -/
theorem length_padded {width n : Nat} (positive : 0 < width) (h : n < Nat.pow 10 width) :
    (padded width n).length = width := by
  have fits : (natDigits n).length ≤ width :=
    (Nat.length_toDigits_le_iff (by decide) positive).mpr h
  simp only [padded, List.length_append, List.length_replicate]
  omega

theorem padded_one (n : Nat) : padded 1 n = natDigits n := by
  have some := List.length_pos_iff.mpr (natDigits_ne_nil n)
  rw [padded, Nat.sub_eq_zero_of_le some, List.replicate_zero, List.nil_append]

theorem digitsToNat_natDigits (n : Nat) : digitsToNat (natDigits n) = n :=
  Nat.ofDigitChars_ten_toDigits

theorem natDigits_injective : Function.Injective natDigits :=
  Function.LeftInverse.injective digitsToNat_natDigits

/-- A number behind something that does not end with a digit is told apart from it. -/
theorem append_natDigits_inj {s t : List Char} {m n : Nat}
    (hs : ∀ c ∈ s.getLast?, isAsciiDigit c = false) (ht : ∀ c ∈ t.getLast?, isAsciiDigit c = false)
    (h : s ++ natDigits m = t ++ natDigits n) : s = t ∧ m = n := by
  have cut := congrArg (dropEndWhile isAsciiDigit) h
  rw [dropEndWhile_append_stop (fun _ => isAsciiDigit_of_mem_natDigits) hs,
    dropEndWhile_append_stop (fun _ => isAsciiDigit_of_mem_natDigits) ht] at cut
  subst cut
  exact ⟨rfl, natDigits_injective (List.append_cancel_left h)⟩

/-- Zeros in front do not change a number. -/
theorem digitsToNat_padded (width n : Nat) : digitsToNat (padded width n) = n := by
  have zeros : digitsToNat (padded width n) =
      Nat.ofDigitChars 10 (List.replicate (width - (natDigits n).length) '0' ++ natDigits n) 0 :=
    rfl
  rw [zeros, Nat.ofDigitChars_append, Nat.ofDigitChars_replicate_zero, Nat.mul_zero]
  exact digitsToNat_natDigits n

theorem digitsToNat_append (a b : List Char) :
    digitsToNat (a ++ b) = Nat.pow 10 b.length * digitsToNat a + digitsToNat b := by
  have whole : digitsToNat (a ++ b) = Nat.ofDigitChars 10 (a ++ b) 0 := rfl
  rw [whole, Nat.ofDigitChars_append, Nat.ofDigitChars_eq_ofDigitChars_zero]
  rfl

/-- ASCII digits are read as what they stand for. -/
theorem readNat?_eq_some {bound : Nat} {s : List Char} (nonempty : s ≠ [])
    (ascii : ∀ c ∈ s, isAsciiDigit c = true) (below : digitsToNat s < bound) :
    readNat? bound s = some (digitsToNat s) := by
  obtain ⟨c, s, rfl⟩ := List.exists_cons_of_ne_nil nonempty
  have noSign : c ≠ '+' := by
    rintro rfl
    exact absurd (ascii '+' List.mem_cons_self) (by decide)
  have all : (c :: s).all isAsciiDigit = true := List.all_eq_true.mpr ascii
  unfold readNat?
  split
  · rename_i rest eq
    exact absurd (List.cons.inj eq).1 noSign
  · simp [all, below]

/-- Where no sign stands in front, what is read is the value of ASCII digits. -/
theorem readNat?_eq_some_iff {bound n : Nat} {s : List Char} (noSign : s.head? ≠ some '+') :
    readNat? bound s = some n ↔
      s ≠ [] ∧ (∀ c ∈ s, isAsciiDigit c = true) ∧ digitsToNat s = n ∧ n < bound := by
  constructor
  · intro h
    unfold readNat? at h
    split at h
    · exact absurd rfl noSign
    · simp only [Bool.or_eq_true, Bool.not_eq_true', List.isEmpty_iff] at h
      split at h
      · cases h
      · rename_i readable
        rw [not_or, Bool.not_eq_false] at readable
        split at h
        · obtain rfl := Option.some.inj h
          exact ⟨readable.1, List.all_eq_true.mp readable.2, rfl, ‹_›⟩
        · cases h
  · rintro ⟨nonempty, ascii, rfl, below⟩
    exact readNat?_eq_some nonempty ascii below

/-- Digits are read as the number that they stand for, if they are ASCII digits. -/
theorem readNat?_run_iff {bound n : Nat} {s : List Char} (digits : ∀ c ∈ s, isDigit c = true) :
    readNat? bound s = some n ↔
      s ≠ [] ∧ (∀ c ∈ s, isAsciiDigit c = true) ∧ digitsToNat s = n ∧ n < bound := by
  refine readNat?_eq_some_iff fun sign => ?_
  exact absurd (digits '+' (List.mem_of_mem_head? sign)) (by decide)

/-! ### Thousands groups -/

/-- The digits of a number with a comma before every three of them, counted from the end. -/
def groupedDigits (n : Nat) : List Char :=
  if n < 1000 then natDigits n else groupedDigits (n / 1000) ++ ',' :: padded 3 (n % 1000)
termination_by n
decreasing_by omega

/-- Up to three digits, and then groups of a comma and three digits. -/
theorem exists_groups (n : Nat) : ∃ (first : List Char) (groups : List (List Char)),
    first ≠ [] ∧ first.length ≤ 3 ∧
    (∀ c ∈ first, isAsciiDigit c = true) ∧
    (∀ g ∈ groups, g.length = 3 ∧ ∀ c ∈ g, isAsciiDigit c = true) ∧
    groupedDigits n = first ++ groups.flatMap (',' :: ·) := by
  fun_induction groupedDigits n with
  | case1 n small =>
    exact ⟨natDigits n, [], natDigits_ne_nil n,
      (Nat.length_toDigits_le_iff (by decide) (by decide)).mpr small,
      fun c => isAsciiDigit_of_mem_natDigits, by simp, by simp⟩
  | case2 n large ih =>
    obtain ⟨first, groups, nonempty, short, digits, threes, eq⟩ := ih
    refine ⟨first, groups ++ [padded 3 (n % 1000)], nonempty, short, digits, ?_, by simp [eq]⟩
    intro g hg
    rcases List.mem_append.mp hg with earlier | last
    · exact threes g earlier
    · rw [List.mem_singleton.mp last]
      exact ⟨length_padded (by decide) (Nat.mod_lt n (by decide)),
        fun c => isAsciiDigit_of_mem_padded⟩

theorem mem_groupedDigits {n : Nat} {c : Char} (h : c ∈ groupedDigits n) :
    isAsciiDigit c = true ∨ c = ',' := by
  obtain ⟨first, groups, -, -, digits, threes, eq⟩ := exists_groups n
  rw [eq] at h
  rcases List.mem_append.mp h with inFirst | inGroups
  · exact .inl (digits c inFirst)
  · obtain ⟨g, hg, hc⟩ := List.mem_flatMap.mp inGroups
    rcases List.mem_cons.mp hc with comma | digit
    · exact .inr comma
    · exact .inl ((threes g hg).2 c digit)

theorem exists_mem_groupedDigits (n : Nat) : ∃ c ∈ groupedDigits n, isAsciiDigit c = true := by
  obtain ⟨first, groups, nonempty, -, digits, -, eq⟩ := exists_groups n
  obtain ⟨c, hc⟩ := List.exists_mem_of_ne_nil first nonempty
  exact ⟨c, by simp [eq, hc], digits c hc⟩

theorem ne_comma_of_isAsciiDigit {c : Char} (h : isAsciiDigit c = true) : (c != ',') = true := by
  refine bne_iff_ne.mpr ?_
  rintro rfl
  exact absurd h (by decide)

/-- Commas say nothing about the value. -/
theorem digitsToNat_groupedDigits (n : Nat) :
    digitsToNat ((groupedDigits n).filter (· != ',')) = n := by
  fun_induction groupedDigits n with
  | case1 n small =>
    rw [List.filter_eq_self.mpr fun c hc =>
      ne_comma_of_isAsciiDigit (isAsciiDigit_of_mem_natDigits hc), digitsToNat_natDigits]
  | case2 n large ih =>
    have group : (padded 3 (n % 1000)).filter (· != ',') = padded 3 (n % 1000) :=
      List.filter_eq_self.mpr fun c hc => ne_comma_of_isAsciiDigit (isAsciiDigit_of_mem_padded hc)
    have width : (padded 3 (n % 1000)).length = 3 :=
      length_padded (by decide) (Nat.mod_lt n (by decide))
    rw [List.filter_append, List.filter_cons_of_neg (by decide), group, digitsToNat_append, ih,
      width, digitsToNat_padded]
    exact Nat.div_add_mod n 1000

/-! ### Readers -/

theorem digits?_eq_some_iff {n : Nat} {s run rest : List Char} :
    digits? n s = some (run, rest) ↔
      run.length = n ∧ (∀ c ∈ run, isDigit c = true) ∧ s = run ++ rest := by
  simp only [digits?]
  constructor
  · intro h
    split at h
    · rename_i found
      simp only [Bool.and_eq_true, beq_iff_eq, List.all_eq_true] at found
      obtain ⟨rfl, rfl⟩ := Prod.mk.inj (Option.some.inj h)
      exact ⟨found.1, found.2, (List.take_append_drop n s).symm⟩
    · cases h
  · rintro ⟨length, all, rfl⟩
    have taken : (run ++ rest).take n = run := by simp [← length]
    have left : (run ++ rest).drop n = rest := by simp [← length]
    rw [taken, left, if_pos]
    simpa [length] using all

/-- Digits in a row do not reach beyond something that is no digit. -/
theorem digits?_append {n : Nat} {c : Char} (noDigit : isDigit c = false)
    (t rest : List Char) : digits? n (t ++ c :: rest) =
      (digits? n t).map fun (run, behind) => (run, behind ++ c :: rest) := by
  cases found : digits? n t with
  | some hit =>
    obtain ⟨run, behind⟩ := hit
    obtain ⟨length, all, rfl⟩ := digits?_eq_some_iff.mp found
    exact digits?_eq_some_iff.mpr ⟨length, all, List.append_assoc ..⟩
  | none =>
    rw [Option.map_none, Option.eq_none_iff_forall_not_mem]
    intro ⟨run, behind⟩ reaching
    obtain ⟨length, all, split⟩ := digits?_eq_some_iff.mp reaching
    have inside : ∀ more, t ≠ run ++ more := by
      rintro more rfl
      rw [digits?_eq_some_iff.mpr ⟨length, all, rfl⟩] at found
      cases found
    -- A run that reaches beyond holds the character itself, and that one is no digit.
    rcases List.append_eq_append_iff.mp split with ⟨more, beyond, tail⟩ | ⟨more, within, -⟩
    · cases more with
      | nil => exact inside [] (by simpa using beyond.symm)
      | cons d more =>
        obtain rfl : c = d := (List.cons.inj tail).1
        have digit := all c (by simp [beyond])
        rw [noDigit] at digit
        cases digit
    · exact inside more within

theorem digits?_eq_none {n : Nat} {s : List Char} (positive : 0 < n)
    (h : ∀ c ∈ s.head?, isDigit c = false) : digits? n s = none := by
  cases found : digits? n s with
  | none => rfl
  | some result =>
    obtain ⟨length, all, split⟩ :=
      digits?_eq_some_iff.mp (show _ = some (result.1, result.2) from found)
    cases run : result.1 with
    | nil =>
      rw [run] at length
      simp only [List.length_nil] at length
      omega
    | cons c run' =>
      have digit := all c (by simp [run])
      rw [h c (by simp [split, run])] at digit
      cases digit

/-- A lone digit with none behind it is not the start of two. -/
theorem digits?_two_eq_none {run rest : List Char} (length : run.length = 1)
    (stop : ∀ c ∈ rest.head?, isDigit c = false) : digits? 2 (run ++ rest) = none := by
  obtain ⟨d, rfl⟩ := List.length_eq_one_iff.mp length
  cases found : digits? 2 ([d] ++ rest) with
  | none => rfl
  | some result =>
    obtain ⟨two, all, split⟩ := digits?_eq_some_iff.mp
      (show _ = some (result.1, result.2) from found)
    match pair : result.1, two with
    | [a, b], _ =>
      rw [pair] at all split
      have behind : rest = b :: result.2 := (List.cons.inj split).2
      have digit := all b (by simp)
      rw [stop b (by simp [behind])] at digit
      cases digit

/-- Two digits are taken where two stand. -/
theorem oneOrTwoDigits?_eq_some_iff {s run rest : List Char} :
    oneOrTwoDigits? s = some (run, rest) ↔
      (run.length = 2 ∨ run.length = 1 ∧ ∀ c ∈ rest.head?, isDigit c = false) ∧
        (∀ c ∈ run, isDigit c = true) ∧ s = run ++ rest := by
  unfold oneOrTwoDigits?
  constructor
  · intro h
    split at h
    · rename_i found two
      obtain ⟨length, all, split⟩ := digits?_eq_some_iff.mp (two.trans h)
      exact ⟨.inl length, all, split⟩
    · rename_i noTwo
      obtain ⟨length, all, split⟩ := digits?_eq_some_iff.mp h
      refine ⟨.inr ⟨length, fun c head => ?_⟩, all, split⟩
      -- A digit behind the one that was taken would have made two.
      obtain ⟨tail, rfl⟩ := List.head?_eq_some_iff.mp head
      refine Bool.eq_false_iff.mpr fun digit => ?_
      have two : digits? 2 s = some (run ++ [c], tail) := by
        refine digits?_eq_some_iff.mpr ⟨by simp [length], fun d hd => ?_, by simp [split]⟩
        rcases List.mem_append.mp hd with old | new
        · exact all d old
        · rwa [List.mem_singleton.mp new]
      rw [two] at noTwo
      cases noTwo
  · rintro ⟨two | ⟨one, stop⟩, all, rfl⟩
    · rw [digits?_eq_some_iff.mpr ⟨two, all, rfl⟩]
    · rw [digits?_two_eq_none one stop]
      exact digits?_eq_some_iff.mpr ⟨one, all, rfl⟩

theorem oneOrTwoDigits?_eq_none {s : List Char} (h : ∀ c ∈ s.head?, isDigit c = false) :
    oneOrTwoDigits? s = none := by
  rw [oneOrTwoDigits?, digits?_eq_none (by decide) h, digits?_eq_none (by decide) h]

theorem thousands_append (s : List Char) : (thousands s).1 ++ (thousands s).2 = s := by
  fun_induction thousands s <;> simp_all

/-- Digits in front of something else are taken as a run. -/
theorem digitRun?_append {run rest : List Char} (nonempty : run ≠ [])
    (digits : ∀ c ∈ run, isDigit c = true) (stop : ∀ c ∈ rest.head?, isDigit c = false) :
    digitRun? (run ++ rest) = some (run, rest) := by
  rw [digitRun?, takeWhile_append_stop digits stop, dropWhile_append_stop digits stop]
  simp [nonempty]

/-- One digit is a run of its own, when there is none behind it and the blanks that follow. -/
theorem digitRun?_digit {digit : Char} {gap rest : List Char} (own : isDigit digit = true)
    (blank : ∀ c ∈ gap, isBlank c = true) (stop : ∀ c ∈ rest.head?, isDigit c = false) :
    digitRun? (digit :: (gap ++ rest)) = some ([digit], gap ++ rest) := by
  refine digitRun?_append (List.cons_ne_nil digit []) (by simpa using own) ?_
  intro c head
  cases gap with
  | nil => exact stop c head
  | cons d gap =>
    obtain rfl : d = c := by simpa using head
    exact isDigit_eq_false_of_isBlank (blank d List.mem_cons_self)

/-- A run of digits is what was taken from the front of the text, and never nothing. -/
theorem digitRun?_eq_some {s run rest : List Char} (h : digitRun? s = some (run, rest)) :
    run ≠ [] ∧ (∀ c ∈ run, isDigit c = true) ∧ s = run ++ rest := by
  simp only [digitRun?] at h
  split at h
  · cases h
  · rename_i nonempty
    obtain ⟨rfl, rfl⟩ : s.takeWhile isDigit = run ∧ s.dropWhile isDigit = rest := by simpa using h
    refine ⟨by simpa using nonempty, List.all_eq_true.mp List.all_takeWhile, ?_⟩
    rw [List.takeWhile_append_dropWhile]

/-- A number is what was taken from the front of the text, and never nothing. -/
theorem number?_eq_some {s run rest : List Char} (h : number? s = some (run, rest)) :
    run ≠ [] ∧ s = run ++ rest := by
  unfold number? at h
  split at h
  · cases h
  · rename_i digits behind first
    obtain ⟨nonempty, -, rfl⟩ := digitRun?_eq_some first
    have groups := thousands_append behind
    split at h <;> obtain ⟨rfl, rfl⟩ := Prod.mk.inj (Option.some.inj h)
    · refine ⟨by simp [nonempty], ?_⟩
      rw [List.append_assoc, groups]
    · exact ⟨nonempty, rfl⟩

/-- Groups of a comma and three digits are taken as long as they follow each other. -/
theorem thousands_groups {groups : List (List Char)} {rest : List Char}
    (threes : ∀ g ∈ groups, g.length = 3 ∧ ∀ c ∈ g, isDigit c = true)
    (stop : ∀ c ∈ rest.head?, c ≠ ',') :
    thousands (groups.flatMap (',' :: ·) ++ rest) = (groups.flatMap (',' :: ·), rest) := by
  induction groups with
  | nil =>
    unfold thousands
    split
    · exact absurd rfl (stop ',' (by simp_all))
    · rfl
  | cons g groups ih =>
    obtain ⟨length, digits⟩ := threes g List.mem_cons_self
    have more := ih fun g hg => threes g (List.mem_cons_of_mem _ hg)
    match g, length with
    | [a, b, c], _ =>
      have da := digits a (by simp)
      have db := digits b (by simp)
      have dc := digits c (by simp)
      simp only [List.flatMap_cons, List.cons_append, List.nil_append]
      rw [thousands, more]
      simp [da, db, dc]

/-- A number is read with all its groups. -/
theorem number?_groups {first rest : List Char} {groups : List (List Char)} (nonempty : first ≠ [])
    (digits : ∀ c ∈ first, isDigit c = true) (short : groups ≠ [] → first.length ≤ 3)
    (threes : ∀ g ∈ groups, g.length = 3 ∧ ∀ c ∈ g, isDigit c = true)
    (noDigit : ∀ c ∈ rest.head?, isDigit c = false) (noComma : ∀ c ∈ rest.head?, c ≠ ',') :
    number? (first ++ groups.flatMap (',' :: ·) ++ rest) =
      some (first ++ groups.flatMap (',' :: ·), rest) := by
  have stop : ∀ c ∈ (groups.flatMap (',' :: ·) ++ rest).head?, isDigit c = false := by
    cases groups with
    | nil => simpa using noDigit
    | cons g groups =>
      simp only [List.flatMap_cons, List.cons_append, List.head?_cons, Option.mem_some]
      rintro c rfl
      decide
  rw [List.append_assoc, number?, digitRun?, takeWhile_append_stop digits stop,
    dropWhile_append_stop digits stop, if_neg (by simpa using nonempty)]
  simp only [thousands_groups threes noComma]
  split
  · rfl
  · rename_i long
    obtain rfl : groups = [] := by
      refine Classical.byContradiction fun some => long (short some)
    simp

theorem number?_natDigits (n : Nat) {rest : List Char}
    (noDigit : ∀ c ∈ rest.head?, isDigit c = false) (noComma : ∀ c ∈ rest.head?, c ≠ ',') :
    number? (natDigits n ++ rest) = some (natDigits n, rest) := by
  have digits : ∀ c ∈ natDigits n, isDigit c = true :=
    fun c hc => isDigit_of_isAsciiDigit (isAsciiDigit_of_mem_natDigits hc)
  have read :=
    @number?_groups _ _ [] (natDigits_ne_nil n) digits (by simp) (by simp) noDigit noComma
  simpa using read

theorem number?_groupedDigits (n : Nat) {rest : List Char}
    (noDigit : ∀ c ∈ rest.head?, isDigit c = false) (noComma : ∀ c ∈ rest.head?, c ≠ ',') :
    number? (groupedDigits n ++ rest) = some (groupedDigits n, rest) := by
  obtain ⟨first, groups, nonempty, short, digits, threes, eq⟩ := exists_groups n
  rw [eq]
  exact number?_groups nonempty (fun c hc => isDigit_of_isAsciiDigit (digits c hc)) (fun _ => short)
    (fun g hg => ⟨(threes g hg).1, fun c hc => isDigit_of_isAsciiDigit ((threes g hg).2 c hc)⟩)
    noDigit noComma

theorem number?_eq_none {s : List Char} (h : ∀ c ∈ s.head?, isDigit c = false) :
    number? s = none := by
  have none : s.takeWhile isDigit = [] := @takeWhile_append_stop _ _ [] s (by simp) h
  simp [number?, digitRun?, none]

end RouteAlerts.Text
