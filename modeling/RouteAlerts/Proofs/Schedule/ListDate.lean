import RouteAlerts.Proofs.Calendar.DayNumber
import RouteAlerts.Proofs.Text.Loosened
import RouteAlerts.Proofs.Text.Order
import RouteAlerts.Proofs.Text.Scan
import RouteAlerts.Schedule.ListPage

/-!
The dates of a list page. A date is written with signs between its numbers or with units behind them
(`Writes`). Between texts without digits it is read back, and what is read from any text is a date
that stands there in one of the two forms (`date?_reads_writes`).
-/

namespace RouteAlerts.Schedule

open Text

/-! ### Dates in writing -/

/-- A number with a zero in front, if it has one digit, or without. -/
def IsShort (n : Nat) (s : List Char) : Prop := s = natDigits n ∨ s = padded 2 n

/-- The digits of a year with four of them, a month and a day. -/
structure Numbers (d : Date) (digits : DateDigits) : Prop where
  year : 0 ≤ d.year ∧ d.year ≤ 9999 ∧ digits.1 = padded 4 d.year.toNat
  month : IsShort d.month digits.2.1
  day : IsShort d.day digits.2.2

def IsDateSign (c : Char) : Prop := c = '-' ∨ c = '.' ∨ c = '/'

instance : DecidablePred IsDateSign := fun _ => inferInstanceAs (Decidable (_ ∨ _ ∨ _))

/-- Year, month and day with signs between them. -/
inductive Signed : DateDigits → List Char → Prop where
  | mk {year month day : List Char} {sign sign' : Char} (first : IsDateSign sign)
      (second : IsDateSign sign') :
      Signed (year, month, day) (year ++ sign :: (month ++ sign' :: day))

/-- What stands behind the year of a date with units. -/
def behindYear (month day : List Char) : List (List Char) := [['년'], month, ['월'], day, ['일']]

theorem gapped_behindYear_iff {month day t : List Char} : Gapped (behindYear month day) t ↔
    ∃ a b c d e, (∀ x ∈ a, isBlank x = true) ∧ (∀ x ∈ b, isBlank x = true) ∧
      (∀ x ∈ c, isBlank x = true) ∧ (∀ x ∈ d, isBlank x = true) ∧ (∀ x ∈ e, isBlank x = true) ∧
      t = a ++ '년' :: (b ++ (month ++ (c ++ '월' :: (d ++ (day ++ (e ++ ['일'])))))) := by
  constructor
  · intro row
    simp only [behindYear, gapped_cons_iff, gapped_nil_iff] at row
    obtain ⟨a, _, blankA, rfl, b, _, blankB, rfl, c, _, blankC, rfl, d, _, blankD, rfl, e, _,
      blankE, rfl, rfl⟩ := row
    exact ⟨a, b, c, d, e, blankA, blankB, blankC, blankD, blankE, by simp⟩
  · rintro ⟨a, b, c, d, e, blankA, blankB, blankC, blankD, blankE, rfl⟩
    exact .cons blankA (.cons blankB (.cons blankC (.cons blankD (.cons blankE .nil))))

/-- Year, month and day with their units, and blanks between all of them or none. -/
inductive Spelled : DateDigits → List Char → Prop where
  | mk {year month day t : List Char} (h : Gapped (behindYear month day) t) :
      Spelled (year, month, day) (year ++ t)

/-- A date as it is written on a list page. -/
def Writes (d : Date) (t : List Char) : Prop :=
  ∃ digits, Numbers d digits ∧ (Signed digits t ∨ Spelled digits t)

/-! ### The numbers -/

/-- Runs of as many digits as the numbers of a date have. -/
structure Runs (digits : DateDigits) : Prop where
  year : digits.1.length = 4 ∧ ∀ c ∈ digits.1, isDigit c = true
  month : (digits.2.1.length = 2 ∨ digits.2.1.length = 1) ∧ ∀ c ∈ digits.2.1, isDigit c = true
  day : (digits.2.2.length = 2 ∨ digits.2.2.length = 1) ∧ ∀ c ∈ digits.2.2, isDigit c = true

theorem Runs.numbers_ne_nil {digits : DateDigits} (runs : Runs digits) :
    digits.1 ≠ [] ∧ digits.2.1 ≠ [] ∧ digits.2.2 ≠ [] := by
  obtain ⟨⟨year, -⟩, ⟨month, -⟩, day, -⟩ := runs
  simp only [← List.length_pos_iff]
  omega

/-- The date that three runs of digits name. -/
def dateOf? (digits : DateDigits) : Option Date := do
  Date.of? (← readNat? (numbersOf 31) digits.1) (← readNat? (numbersOf 32) digits.2.1)
    (← readNat? (numbersOf 32) digits.2.2)

theorem date?_eq (s : List Char) : date? s =
    ((firstMatch signedDate? (squeeze s)).orElse fun _ =>
      firstMatch spelledDate? (squeeze s)).bind fun found => dateOf? found.2.1 := rfl

theorem isShort_iff {n : Nat} {s : List Char} (fits : n < 100) : IsShort n s ↔
    (s.length = 2 ∨ s.length = 1) ∧ (∀ c ∈ s, isAsciiDigit c = true) ∧ digitsToNat s = n := by
  have two := @eq_padded_iff 2 n s (by decide) fits
  constructor
  · rintro (rfl | padded)
    · have long : (natDigits n).length ≤ 2 :=
        (Nat.length_toDigits_le_iff (by decide) (by decide)).mpr fits
      have some := List.length_pos_iff.mpr (natDigits_ne_nil n)
      exact ⟨by omega, fun _ => isAsciiDigit_of_mem_natDigits, digitsToNat_natDigits n⟩
    · obtain ⟨length, digits, value⟩ := two.mp padded
      exact ⟨.inl length, digits, value⟩
  · rintro ⟨length | length, digits, value⟩
    · exact .inr (two.mpr ⟨length, digits, value⟩)
    · have small : n < Nat.pow 10 1 := by
        rw [← value, ← length]
        exact digitsToNat_lt digits
      rw [IsShort, ← padded_one]
      exact .inl ((eq_padded_iff (by decide) small).mpr ⟨length, digits, value⟩)

theorem Numbers.runs {d : Date} {digits : DateDigits} (h : Numbers d digits) : Runs digits := by
  have year := h.year
  have month := d.month_bounds
  have day := d.day_bounds
  obtain ⟨lengthY, asciiY, -⟩ :=
    (eq_padded_iff (by decide) (show d.year.toNat < Nat.pow 10 4 by simp; omega)).mp h.year.2.2
  obtain ⟨lengthM, asciiM, -⟩ := (isShort_iff (by omega)).mp h.month
  obtain ⟨lengthD, asciiD, -⟩ := (isShort_iff (by omega)).mp h.day
  exact ⟨⟨lengthY, fun c hc => isDigit_of_isAsciiDigit (asciiY c hc)⟩,
    ⟨lengthM, fun c hc => isDigit_of_isAsciiDigit (asciiM c hc)⟩,
    ⟨lengthD, fun c hc => isDigit_of_isAsciiDigit (asciiD c hc)⟩⟩

theorem dateOf?_eq_some_iff {d : Date} {digits : DateDigits} (runs : Runs digits) :
    dateOf? digits = some d ↔ Numbers d digits := by
  obtain ⟨someY, someM, someD⟩ := runs.numbers_ne_nil
  obtain ⟨year, month, day⟩ := digits
  obtain ⟨⟨lengthY, digitsY⟩, ⟨lengthM, digitsM⟩, ⟨lengthD, digitsD⟩⟩ := runs
  simp only [dateOf?, Option.bind_eq_bind, Option.bind_eq_some_iff, readNat?_run_iff digitsY,
    readNat?_run_iff digitsM, readNat?_run_iff digitsD]
  constructor
  · rintro ⟨_, ⟨-, asciiY, rfl, -⟩, _, ⟨-, asciiM, rfl, -⟩, _, ⟨-, asciiD, rfl, -⟩, named⟩
    -- The numbers are those of a date, so their widths leave one way to write each of them.
    have below : digitsToNat year < Nat.pow 10 4 := lengthY ▸ digitsToNat_lt asciiY
    unfold Date.of? at named
    split at named
    · rename_i isDate
      obtain rfl := Option.some.inj named
      have months : _ ∧ digitsToNat month ≤ 12 := Date.month_bounds ⟨_, _, _, isDate⟩
      have days : _ ∧ digitsToNat day ≤ 31 := Date.day_bounds ⟨_, _, _, isDate⟩
      refine ⟨⟨by simp, by simp at below ⊢; omega, ?_⟩, ?_, ?_⟩
      · exact (eq_padded_iff (by decide) below).mpr ⟨lengthY, asciiY, rfl⟩
      · exact (isShort_iff (show digitsToNat month < 100 by omega)).mpr ⟨lengthM, asciiM, rfl⟩
      · exact (isShort_iff (show digitsToNat day < 100 by omega)).mpr ⟨lengthD, asciiD, rfl⟩
    · cases named
  · rintro ⟨⟨low, high, writtenY⟩, writtenM, writtenD⟩
    have months := d.month_bounds
    have days := d.day_bounds
    have fits : d.year.toNat < Nat.pow 10 4 := by simp; omega
    obtain ⟨-, asciiY, valueY⟩ := (eq_padded_iff (by decide) fits).mp writtenY
    obtain ⟨-, asciiM, valueM⟩ := (isShort_iff (by omega)).mp writtenM
    obtain ⟨-, asciiD, valueD⟩ := (isShort_iff (by omega)).mp writtenD
    refine ⟨d.year.toNat, ⟨someY, asciiY, valueY, fits.trans (by decide)⟩,
      d.month, ⟨someM, asciiM, valueM, ?_⟩, d.day, ⟨someD, asciiD, valueD, ?_⟩, ?_⟩
    · exact months.2.trans_lt (by decide)
    · exact days.2.trans_lt (by decide)
    · rw [Int.toNat_of_nonneg low, Date.of?, dif_pos d.isDate]

/-! ### What is read -/

theorem dateSign?_eq_some_iff {s rest : List Char} :
    dateSign? s = some rest ↔ ∃ c, IsDateSign c ∧ s = c :: rest := by
  cases s with
  | nil => simp [dateSign?]
  | cons c s => simp [dateSign?, IsDateSign, or_assoc, and_assoc, and_comm]

theorem unit?_eq_some_iff {unit : Char} (solid : isBlank unit = false) {s rest : List Char} :
    unit? unit s = some rest ↔
      ∃ gap, (∀ c ∈ gap, isBlank c = true) ∧ s = gap ++ unit :: rest := by
  constructor
  · intro h
    unfold unit? at h
    split at h
    · rename_i c tail front
      split at h
      · rename_i same
        obtain rfl := Option.some.inj h
        obtain rfl := eq_of_beq same
        exact exists_of_trimStart front
      · cases h
    · cases h
  · rintro ⟨gap, blank, rfl⟩
    rw [unit?, trimStart, dropWhile_append_stop blank (by simpa using solid)]
    simp

theorem isDigit_eq_false_of_isDateSign {c : Char} (h : IsDateSign c) : isDigit c = false := by
  rcases h with rfl | rfl | rfl <;> decide

/-- The texts that a date with signs is taken from. -/
theorem signedDate?_eq_some_iff {s rest : List Char} {digits : DateDigits} :
    signedDate? s = some (digits, rest) ↔ Runs digits ∧
      (digits.2.2.length = 1 → ∀ c ∈ rest.head?, isDigit c = false) ∧
      ∃ t, Signed digits t ∧ s = t ++ rest := by
  simp only [signedDate?, Option.bind_eq_bind, Option.bind_eq_some_iff, Prod.exists,
    digits?_eq_some_iff, dateSign?_eq_some_iff, oneOrTwoDigits?_eq_some_iff, Option.some.injEq,
    Prod.mk.injEq]
  constructor
  · rintro ⟨year, _, ⟨lengthY, digitsY, rfl⟩, _, ⟨sign, first, rfl⟩, month, _,
      ⟨lengthM, digitsM, rfl⟩, _, ⟨sign', second, rfl⟩, day, _, ⟨lengthD, digitsD, rfl⟩, rfl, rfl⟩
    refine ⟨⟨⟨lengthY, digitsY⟩, ⟨lengthM.imp_right And.left, digitsM⟩,
      ⟨lengthD.imp_right And.left, digitsD⟩⟩, fun one => ?_, _, .mk first second, by simp⟩
    rcases lengthD with two | ⟨-, stop⟩
    · rw [one] at two
      cases two
    · exact stop
  · rintro ⟨⟨⟨lengthY, digitsY⟩, ⟨lengthM, digitsM⟩, ⟨lengthD, digitsD⟩⟩, stop, t, written, rfl⟩
    cases written with
    | @mk year month day sign sign' first second =>
      refine ⟨year, sign :: (month ++ sign' :: (day ++ rest)), ⟨lengthY, digitsY, by simp⟩, _,
        ⟨sign, first, rfl⟩, month, _, ⟨lengthM.imp_right fun one => ⟨one, ?_⟩, digitsM, rfl⟩, _,
        ⟨sign', second, rfl⟩, day, rest,
        ⟨lengthD.imp_right fun one => ⟨one, stop one⟩, digitsD, rfl⟩, rfl, rfl⟩
      simpa using isDigit_eq_false_of_isDateSign second

/-- Blanks in front of a number are passed over. -/
theorem oneOrTwoDigits?_trimStart_eq_some_iff {s run rest : List Char} :
    oneOrTwoDigits? (trimStart s) = some (run, rest) ↔
      ∃ gap, (∀ c ∈ gap, isBlank c = true) ∧ s = gap ++ (run ++ rest) ∧
        (run.length = 2 ∨ run.length = 1 ∧ ∀ c ∈ rest.head?, isDigit c = false) ∧
        ∀ c ∈ run, isDigit c = true := by
  rw [oneOrTwoDigits?_eq_some_iff]
  constructor
  · rintro ⟨length, digits, front⟩
    obtain ⟨gap, blank, split⟩ := exists_of_trimStart front
    exact ⟨gap, blank, split, length, digits⟩
  · rintro ⟨gap, blank, rfl, length, digits⟩
    refine ⟨length, digits, dropWhile_append_stop blank fun c head => ?_⟩
    cases run with
    | nil => simp at length
    | cons d run =>
      obtain rfl := Option.some.inj head
      exact isBlank_eq_false_of_isDigit (digits d List.mem_cons_self)

/-- The texts that a date with units is taken from. -/
theorem spelledDate?_eq_some_iff {s rest : List Char} {digits : DateDigits} :
    spelledDate? s = some (digits, rest) ↔
      Runs digits ∧ ∃ t, Spelled digits t ∧ s = t ++ rest := by
  simp only [spelledDate?, Option.bind_eq_bind, Option.bind_eq_some_iff, Prod.exists,
    digits?_eq_some_iff, unit?_eq_some_iff (show isBlank '년' = false by decide),
    unit?_eq_some_iff (show isBlank '월' = false by decide),
    unit?_eq_some_iff (show isBlank '일' = false by decide), oneOrTwoDigits?_trimStart_eq_some_iff,
    Option.some.injEq, Prod.mk.injEq]
  constructor
  · rintro ⟨year, _, ⟨lengthY, digitsY, rfl⟩, _, ⟨a, blankA, rfl⟩, month, _,
      ⟨b, blankB, rfl, lengthM, digitsM⟩, _, ⟨c, blankC, rfl⟩, day, _,
      ⟨d, blankD, rfl, lengthD, digitsD⟩, _, ⟨e, blankE, rfl⟩, rfl, rfl⟩
    refine ⟨⟨⟨lengthY, digitsY⟩, ⟨lengthM.imp_right And.left, digitsM⟩,
      ⟨lengthD.imp_right And.left, digitsD⟩⟩, _,
      .mk (gapped_behindYear_iff.mpr
        ⟨a, b, c, d, e, blankA, blankB, blankC, blankD, blankE, rfl⟩), by simp⟩
  · rintro ⟨⟨⟨lengthY, digitsY⟩, ⟨lengthM, digitsM⟩, ⟨lengthD, digitsD⟩⟩, t, written, rfl⟩
    cases written with
    | @mk year month day t row =>
      obtain ⟨a, b, c, d, e, blankA, blankB, blankC, blankD, blankE, rfl⟩ :=
        gapped_behindYear_iff.mp row
      refine ⟨year, _, ⟨lengthY, digitsY, by simp only [List.append_assoc, List.cons_append,
        List.nil_append]⟩, _, ⟨a, blankA, rfl⟩, month, _, ⟨b, blankB, rfl, ?_, digitsM⟩, _,
        ⟨c, blankC, rfl⟩, day, _, ⟨d, blankD, rfl, ?_, digitsD⟩, _, ⟨e, blankE, rfl⟩, rfl, rfl⟩
      · exact lengthM.imp_right fun one => ⟨one,
          head_gap_append blankC (fun _ => isDigit_eq_false_of_isBlank) (by decide)⟩
      · exact lengthD.imp_right fun one => ⟨one,
          head_gap_append blankE (fun _ => isDigit_eq_false_of_isBlank) (by decide)⟩

/-! ### Blanks between the numbers -/

section

variable {digits : DateDigits} {s t : List Char}

theorem isBlank_eq_false_of_isDateSign {c : Char} (h : IsDateSign c) : isBlank c = false := by
  rcases h with rfl | rfl | rfl <;> decide

theorem Runs.ne_nil (runs : Runs digits) (h : Signed digits t ∨ Spelled digits t) : t ≠ [] := by
  rcases h with signed | spelled
  · cases signed
    simp
  · have year := runs.numbers_ne_nil.1
    cases spelled
    simp [year]

theorem Signed.isBlank_eq_false (runs : Runs digits) (h : Signed digits t) :
    ∀ c ∈ t, isBlank c = false := by
  obtain ⟨⟨-, year⟩, ⟨-, month⟩, ⟨-, day⟩⟩ := runs
  cases h with
  | mk first second =>
    simp only [List.mem_append, List.mem_cons]
    rintro c (inYear | rfl | inMonth | rfl | inDay)
    · exact isBlank_eq_false_of_isDigit (year c inYear)
    · exact isBlank_eq_false_of_isDateSign first
    · exact isBlank_eq_false_of_isDigit (month c inMonth)
    · exact isBlank_eq_false_of_isDateSign second
    · exact isBlank_eq_false_of_isDigit (day c inDay)

theorem Runs.isBlank_behindYear (runs : Runs digits) :
    ∀ w ∈ behindYear digits.2.1 digits.2.2, ∀ c ∈ w, isBlank c = false := by
  simp only [behindYear, List.forall_mem_cons]
  exact ⟨⟨by decide, by simp⟩, fun c hc => isBlank_eq_false_of_isDigit (runs.month.2 c hc),
    ⟨by decide, by simp⟩, fun c hc => isBlank_eq_false_of_isDigit (runs.day.2 c hc),
    ⟨by decide, by simp⟩, by simp⟩

/-- A date with units stays one when it is squeezed. -/
theorem Spelled.squeeze (runs : Runs digits) (h : Spelled digits t) :
    Spelled digits (squeeze t) := by
  cases h with
  | @mk year month day t row =>
    have solid : ∀ c ∈ year, isBlank c = false :=
      fun c hc => isBlank_eq_false_of_isDigit (runs.year.2 c hc)
    obtain ⟨gap, blank, split⟩ := squeeze_append year t
    rw [split, squeeze_eq_self_of_solid solid]
    exact .mk ((row.squeeze runs.isBlank_behindYear).blank_append blank)

/-- A date with units stays one when the blanks in it change. -/
theorem Spelled.loosen (runs : Runs digits) (h : Spelled digits s) (loosened : Loosened s t) :
    Spelled digits t := by
  cases h with
  | @mk year month day s row =>
    have solid : ∀ c ∈ year, isBlank c = false :=
      fun c hc => isBlank_eq_false_of_isDigit (runs.year.2 c hc)
    obtain ⟨year', rest, rfl, own, behind⟩ := loosened.exists_append
    rw [own.eq_of_solid solid]
    exact .mk (row.loosen runs.isBlank_behindYear behind)

/-! ### No date with signs -/

theorem signedDate?_eq_none (h : ∀ c ∈ s.head?, isDigit c = false) : signedDate? s = none := by
  simp [signedDate?, digits?_eq_none (show 0 < 4 by decide) h]

theorem spelledDate?_eq_none (h : ∀ c ∈ s.head?, isDigit c = false) : spelledDate? s = none := by
  simp [spelledDate?, digits?_eq_none (show 0 < 4 by decide) h]

theorem silent_signed_of_clear (clear : ∀ c ∈ s, isDigit c = false) (rest : List Char) :
    Silent signedDate? s rest :=
  silent_of_heads (fun _ _ head => signedDate?_eq_none (by simpa using head)) clear

theorem silent_spelled_of_clear (clear : ∀ c ∈ s, isDigit c = false) (rest : List Char) :
    Silent spelledDate? s rest :=
  silent_of_heads (fun _ _ head => spelledDate?_eq_none (by simpa using head)) clear

/-- No date with signs starts in digits that stand before something else than a sign. -/
theorem silent_signed_run {run rest : List Char} (all : ∀ c ∈ run, isDigit c = true)
    (stop : ∀ c ∈ rest.head?, isDigit c = false) (plain : ∀ c ∈ rest.head?, ¬ IsDateSign c) :
    Silent signedDate? run rest := by
  intro t suffix nonempty
  cases found : signedDate? (t ++ rest) with
  | none => rfl
  | some result =>
    obtain ⟨digits, behind⟩ := result
    obtain ⟨runs, -, _, ⟨first, second⟩, split⟩ := signedDate?_eq_some_iff.mp found
    rename_i year month day sign sign'
    -- The digits of the year are all that stand there, and behind them stands a sign.
    rw [List.append_assoc, List.cons_append] at split
    have own : t = year := by
      have taken := congrArg (List.takeWhile isDigit) split
      rwa [takeWhile_append_stop (fun c hc => all c (suffix.subset hc)) stop,
        takeWhile_append_stop runs.year.2 (by simpa using isDigit_eq_false_of_isDateSign first)]
        at taken
    rw [own] at split
    refine absurd first (plain sign ?_)
    rw [List.append_cancel_left split]
    rfl

/-- Nor in digits with a unit behind them. -/
theorem silent_signed_unit {run gap between rest : List Char} {unit : Char}
    (all : ∀ c ∈ run, isDigit c = true) (blank : ∀ c ∈ gap, isBlank c = true)
    (unitPlain : isDigit unit = false ∧ ¬ IsDateSign unit)
    (clear : ∀ c ∈ between, isDigit c = false) (h : Silent signedDate? rest []) :
    Silent signedDate? (run ++ (gap ++ unit :: (between ++ rest))) [] := by
  have behind : Silent signedDate? (gap ++ unit :: between) (rest ++ []) := by
    refine silent_signed_of_clear (fun c hc => ?_) _
    rcases List.mem_append.mp hc with inGap | inRest
    · exact isDigit_eq_false_of_isBlank (blank c inGap)
    · rcases List.mem_cons.mp inRest with rfl | inBetween
      · exact unitPlain.1
      · exact clear c inBetween
  have stop : ∀ c ∈ (gap ++ unit :: (between ++ rest)).head?, ¬ IsDateSign c := by
    cases gap with
    | nil => simpa using unitPlain.2
    | cons x gap =>
      intro c head sign
      obtain rfl := Option.some.inj head
      simp [isBlank_eq_false_of_isDateSign sign] at blank
  have own : Silent signedDate? run (gap ++ unit :: (between ++ rest)) :=
    silent_signed_run all
      (head_gap_append blank (fun _ => isDigit_eq_false_of_isBlank) unitPlain.1) stop
  refine Silent.append (by simpa using own) ?_
  simpa using behind.append h

/-- No date with signs starts in a date with units that stands before a text without digits. -/
theorem silent_signed_spelled (runs : Runs digits) (h : Spelled digits t) {back : List Char}
    (clear : ∀ c ∈ back, isDigit c = false) : Silent signedDate? (t ++ back) [] := by
  cases h with
  | @mk year month day t row =>
    obtain ⟨a, b, c, d, e, blankA, blankB, blankC, blankD, blankE, rfl⟩ :=
      gapped_behindYear_iff.mp row
    have plain {gap : List Char} (blank : ∀ x ∈ gap, isBlank x = true) :
        ∀ x ∈ gap, isDigit x = false := fun x hx => isDigit_eq_false_of_isBlank (blank x hx)
    have inDay := @silent_signed_unit day e back [] '일' runs.day.2 blankE (by decide) clear
      (silent_nil [])
    have inMonth := @silent_signed_unit month c d _ '월' runs.month.2 blankC (by decide)
      (plain blankD) inDay
    have inYear := @silent_signed_unit year a b _ '년' runs.year.2 blankA (by decide)
      (plain blankB) inMonth
    simpa using inYear

end

/-! ### Reading what was written -/

/-- What is left of a text without digits when it is squeezed, with blanks beside it. -/
theorem isDigit_eq_false_of_mem_squeeze {s : List Char} (clear : ∀ c ∈ s, isDigit c = false) :
    ∀ c ∈ squeeze s, isDigit c = false := by
  intro c hc
  rcases mem_squeeze hc with rfl | ⟨own, -⟩
  · decide
  · exact clear c own

/-- A written date between texts without digits, squeezed. -/
theorem exists_squeeze_written {front t back : List Char}
    (clearFront : ∀ c ∈ front, isDigit c = false) (clearBack : ∀ c ∈ back, isDigit c = false) :
    ∃ front' back', (∀ c ∈ front', isDigit c = false) ∧ (∀ c ∈ back', isDigit c = false) ∧
      squeeze (front ++ (t ++ back)) = front' ++ (squeeze t ++ back') := by
  obtain ⟨gap, blank, split⟩ := squeeze_append front (t ++ back)
  obtain ⟨gap', blank', split'⟩ := squeeze_append t back
  refine ⟨squeeze front ++ gap, gap' ++ squeeze back, fun c hc => ?_, fun c hc => ?_, ?_⟩
  · rcases List.mem_append.mp hc with own | inGap
    · exact isDigit_eq_false_of_mem_squeeze clearFront c own
    · exact isDigit_eq_false_of_isBlank (blank c inGap)
  · rcases List.mem_append.mp hc with inGap | own
    · exact isDigit_eq_false_of_isBlank (blank' c inGap)
    · exact isDigit_eq_false_of_mem_squeeze clearBack c own
  · rw [split, split']
    simp only [List.append_assoc]

/-- A written date between texts without digits is read. -/
theorem date?_of_writes {d : Date} {front t back : List Char} (written : Writes d t)
    (clearFront : ∀ c ∈ front, isDigit c = false) (clearBack : ∀ c ∈ back, isDigit c = false) :
    date? (front ++ (t ++ back)) = some d := by
  obtain ⟨digits, numbers, form⟩ := written
  obtain ⟨front', back', clearFront, clearBack, squeezed⟩ :=
    @exists_squeeze_written front t back clearFront clearBack
  have runs := numbers.runs
  have names : dateOf? digits = some d := (dateOf?_eq_some_iff runs).mpr numbers
  rw [date?_eq, squeezed]
  rcases form with signed | spelled
  · rw [squeeze_eq_self_of_solid (signed.isBlank_eq_false runs)]
    have read : signedDate? (t ++ back') = some (digits, back') := by
      refine signedDate?_eq_some_iff.mpr ⟨runs, fun _ c head => ?_, t, signed, rfl⟩
      exact clearBack c (List.mem_of_mem_head? head)
    rw [firstMatch_silent (silent_signed_of_clear clearFront _),
      firstMatch_match (runs.ne_nil (.inl signed)) read]
    exact names
  · have spelled := spelled.squeeze runs
    -- Dates with signs are looked for first, wherever they stand, so there must be none.
    have none : firstMatch signedDate? (front' ++ (squeeze t ++ back')) = none := by
      have inDate := silent_signed_spelled runs spelled clearBack
      exact firstMatch_eq_none_iff.mpr ((silent_signed_of_clear clearFront _).append inDate)
    have read : spelledDate? (squeeze t ++ back') = some (digits, back') :=
      spelledDate?_eq_some_iff.mpr ⟨runs, _, spelled, rfl⟩
    rw [none, firstMatch_silent (silent_spelled_of_clear clearFront _),
      firstMatch_match (runs.ne_nil (.inr spelled)) read]
    exact names

/-- A date that is read stands in the text. -/
theorem exists_writes_of_date? {s : List Char} {d : Date} (h : date? s = some d) :
    ∃ front t back, s = front ++ (t ++ back) ∧ Writes d t := by
  rw [date?_eq] at h
  obtain ⟨⟨gap, digits, rest⟩, found, names⟩ := Option.bind_eq_some_iff.mp h
  have stands : Runs digits ∧ ∃ t, (Signed digits t ∨ Spelled digits t) ∧
      squeeze s = gap ++ (t ++ rest) := by
    cases signs : firstMatch signedDate? (squeeze s) with
    | some result =>
      rw [signs] at found
      obtain rfl := Option.some.inj found
      obtain ⟨_, split, read⟩ := firstMatch_eq_some signs
      obtain ⟨runs, -, t, signed, rfl⟩ := signedDate?_eq_some_iff.mp read
      exact ⟨runs, t, .inl signed, split⟩
    | none =>
      rw [signs] at found
      obtain ⟨_, split, read⟩ := firstMatch_eq_some found
      obtain ⟨runs, t, spelled, rfl⟩ := spelledDate?_eq_some_iff.mp read
      exact ⟨runs, t, .inr spelled, split⟩
  obtain ⟨runs, t, form, split⟩ := stands
  obtain ⟨front, t', back, rfl, loosened⟩ := exists_of_squeeze_eq_append split
  refine ⟨front, t', back, rfl, digits, (dateOf?_eq_some_iff runs).mp names, ?_⟩
  -- A date with signs has no blanks to lose; one with units may have been loosened.
  rcases form with signed | spelled
  · rw [loosened.eq_of_solid (signed.isBlank_eq_false runs)]
    exact .inl signed
  · exact .inr (spelled.loosen runs loosened)

/-- A date of four-digit years that is written between texts without digits, in one of the two
forms, is read as that date. Whatever is read from any text is a date that is written in it. -/
theorem date?_reads_writes :
    (∀ (d : Date) (front t back : List Char), Writes d t → (∀ c ∈ front, isDigit c = false) →
      (∀ c ∈ back, isDigit c = false) → date? (front ++ (t ++ back)) = some d) ∧
    ∀ (s : List Char) (d : Date), date? s = some d →
      ∃ front t back, s = front ++ (t ++ back) ∧ Writes d t :=
  ⟨fun _ _ _ _ => date?_of_writes, fun _ _ => exists_writes_of_date?⟩

/-- The last day of a February, with units and with signs. -/
theorem date?_reads_writes_sample :
    let d : Date := ⟨2024, 2, 29, by decide⟩
    date? "(2024년 02월\n29 일)".toList = some d ∧ date? "(2024.2/29)".toList = some d ∧
      ∃ front t back, "(2024.2/29)".toList = front ++ (t ++ back) ∧ Writes d t := by
  intro d
  have year : ['2', '0', '2', '4'] = padded 4 2024 := by decide
  have day : ['2', '9'] = natDigits 29 := by decide
  have numbers (month : List Char) (short : IsShort 2 month) :
      Numbers d (['2', '0', '2', '4'], month, ['2', '9']) :=
    ⟨⟨by decide, by decide, year⟩, short, .inl day⟩
  have blank {c : Char} (own : isBlank c = true) : ∀ x ∈ [c], isBlank x = true := by
    simpa using own
  have clear {c : Char} (own : isDigit c = false) : ∀ x ∈ [c], isDigit x = false := by
    simpa using own
  have units : Gapped (behindYear ['0', '2'] ['2', '9'])
      (['년'] ++ ([' '] ++ (['0', '2'] ++ (['월'] ++ (['\n'] ++ (['2', '9'] ++
        ([' '] ++ ['일']))))))) :=
    @Gapped.cons [] ['년'] _ _ (by simp)
      (@Gapped.cons [' '] ['0', '2'] _ _ (blank (by decide)) (@Gapped.cons [] ['월'] _ _ (by simp)
        (@Gapped.cons ['\n'] ['2', '9'] _ _ (blank (by decide))
          (@Gapped.cons [' '] ['일'] _ _ (blank (by decide)) .nil))))
  have spelled : Writes d _ := ⟨_, numbers ['0', '2'] (.inr (by decide)), .inr (.mk units)⟩
  have signed : Writes d _ :=
    ⟨_, numbers ['2'] (.inl (by decide)), .inl (@Signed.mk _ _ _ '.' '/' (by decide) (by decide))⟩
  have front : ∀ c ∈ ['('], isDigit c = false := clear (by decide)
  have back : ∀ c ∈ [')'], isDigit c = false := clear (by decide)
  have splitSpelled : "(2024년 02월\n29 일)".toList =
      ['('] ++ ((['2', '0', '2', '4'] ++ (['년'] ++ ([' '] ++ (['0', '2'] ++ (['월'] ++ (['\n'] ++
        (['2', '9'] ++ ([' '] ++ ['일'])))))))) ++ [')']) := by decide +kernel
  have splitSigned : "(2024.2/29)".toList =
      ['('] ++ ((['2', '0', '2', '4'] ++ '.' :: (['2'] ++ '/' :: ['2', '9'])) ++ [')']) := by
    decide +kernel
  have read : date? "(2024.2/29)".toList = some d :=
    splitSigned ▸ date?_reads_writes.1 d ['('] _ [')'] signed front back
  refine ⟨?_, read, date?_reads_writes.2 _ d read⟩
  exact splitSpelled ▸ date?_reads_writes.1 d ['('] _ [')'] spelled front back

end RouteAlerts.Schedule
