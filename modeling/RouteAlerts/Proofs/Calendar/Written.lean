import RouteAlerts.Calendar.Reader
import RouteAlerts.Proofs.Calendar.DayNumber
import RouteAlerts.Proofs.Text.Order

/-!
Dates and clocks in writing. What is written of a date or of a clock is read back, whatever follows
it (`dateFields_text`, `clockFields_secondsText`), so a date says itself where it ends
(`text_append_inj`). That holds of the shorter forms as well: no two dates are the same without
hyphens (`compact_injective`), and six digits name the days of this century (`ofStamp?_stamp`).
-/

namespace RouteAlerts

open Text

/-! ### Numbers -/

namespace Calendar

@[simp] theorem mark_self (c : Char) (s : List Char) : mark c (c :: s) = some s := by
  simp [mark]

/-- A run of digits is read up to its end, if it is not longer than what may be read. -/
theorem number_run {most : Nat} {digits rest : List Char} (nonempty : digits ≠ [])
    (ascii : ∀ c ∈ digits, isAsciiDigit c = true) (fits : digits.length ≤ most)
    (stop : ∀ c ∈ (rest.take (most - digits.length)).head?, isAsciiDigit c = false) :
    number most (digits ++ rest) = some (digitsToNat digits, rest) := by
  have run : ((digits ++ rest).take most).takeWhile isAsciiDigit = digits := by
    rw [List.take_append, List.take_of_length_le fits]
    exact takeWhile_append_stop ascii stop
  have written : digits.isEmpty = false := List.isEmpty_eq_false_iff.mpr nonempty
  simp [number, run, written]

theorem number_padded {width n : Nat} {rest : List Char} (positive : 0 < width)
    (fits : n < Nat.pow 10 width) :
    number width (padded width n ++ rest) = some (n, rest) := by
  have length := length_padded positive fits
  rw [number_run (by simp [padded, natDigits_ne_nil]) (fun _ => isAsciiDigit_of_mem_padded)
    (Nat.le_of_eq length) (by simp [length]), digitsToNat_padded]

theorem field_padded {n : Nat} (fits : n < 100) (rest : List Char) :
    field (padded 2 n ++ rest) = some (n, rest) := by
  rw [field, trimStart_padded, number_padded (by decide) fits]

end Calendar

/-! ### Years -/

theorem Date.yearText_eq {year : Int} (low : 0 ≤ year) (high : year ≤ 9999) :
    Date.yearText year = padded 4 year.toNat := by
  obtain ⟨year, rfl⟩ := Int.eq_ofNat_of_zero_le low
  exact if_pos (by omega)

/-- A signed year is read up to the end of its digits, an unsigned one has four of them. -/
theorem Calendar.year_yearText (year : Int) {rest : List Char}
    (stop : ∀ c ∈ rest.head?, isAsciiDigit c = false) :
    Calendar.year (Date.yearText year ++ rest) = some (year, rest) := by
  have signed : ∀ n : Nat, Calendar.number (padded 4 n ++ rest).length (padded 4 n ++ rest) =
      some (n, rest) := by
    intro n
    rw [number_run (by simp [padded, natDigits_ne_nil]) (fun _ => isAsciiDigit_of_mem_padded)
      (by simp) (by simpa using stop), digitsToNat_padded]
  have plus : isBlank '+' = false := by decide
  have hyphen : isBlank '-' = false := by decide
  cases year with
  | ofNat n =>
    rw [Date.yearText]
    split
    · rename_i short
      unfold Calendar.year
      rw [trimStart_padded]
      split
      · -- An unsigned year opens with a digit, which is not taken for a sign.
        rename_i negative
        have digit := isAsciiDigit_head_padded '-' (by rw [negative]; rfl)
        exact absurd digit (by decide)
      · rename_i positive
        have digit := isAsciiDigit_head_padded '+' (by rw [positive]; rfl)
        exact absurd digit (by decide)
      · rw [number_padded (by decide) (Nat.lt_succ_of_le short)]
        rfl
    · have front : trimStart ('+' :: padded 4 n ++ rest) = '+' :: (padded 4 n ++ rest) :=
        dropWhile_eq_self (by simp [plus])
      simp only [Calendar.year, front, signed, Option.map_some]
      rfl
  | negSucc n =>
    have front : trimStart ('-' :: padded 4 (n + 1) ++ rest) = '-' :: (padded 4 (n + 1) ++ rest) :=
      dropWhile_eq_self (by simp [hyphen])
    simp only [Date.yearText, Calendar.year, front, signed, Option.map_some]
    rfl

theorem Date.isBlank_head_yearText {year : Int} {rest : List Char} :
    ∀ c ∈ (Date.yearText year ++ rest).head?, isBlank c = false := by
  intro c head
  cases year with
  | ofNat n =>
    rw [Date.yearText] at head
    split at head
    · exact isBlank_eq_false_of_isAsciiDigit (isAsciiDigit_head_padded c head)
    · obtain rfl : '+' = c := by simpa using head
      decide
  | negSucc n =>
    obtain rfl : '-' = c := by simpa [Date.yearText] using head
    decide

theorem Date.yearText_injective : Function.Injective yearText := by
  intro a b same
  have reads : ∀ year, Calendar.year (yearText year) = some (year, []) := by
    intro year
    simpa using @Calendar.year_yearText year [] (by simp)
  have both := reads a
  rw [same, reads b, Option.some_inj] at both
  exact (Prod.mk.inj both).1.symm

/-! ### Dates -/

theorem Calendar.dateFields_text (d : Date) (rest : List Char) :
    Calendar.dateFields id (d.text ++ rest) = some (d, rest) := by
  have months := d.month_bounds
  have days := d.day_bounds
  have date : Date.of? d.year d.month d.day = some d := dif_pos d.isDate
  have text : d.text ++ rest = Date.yearText d.year ++ ('-' :: (padded 2 d.month ++ '-' ::
      (padded 2 d.day ++ rest))) := by simp [Date.text]
  have year := @year_yearText d.year ('-' :: (padded 2 d.month ++ '-' :: (padded 2 d.day ++ rest)))
    (by simp; decide)
  simp only [text, Calendar.dateFields, year, mark_self, id,
    field_padded (show d.month < 100 by omega), field_padded (show d.day < 100 by omega), date,
    Option.bind_eq_bind, Option.bind_some]

/-- A date says itself where it ends. -/
theorem Date.text_append_inj {d e : Date} {s t : List Char} :
    d.text ++ s = e.text ++ t ↔ d = e ∧ s = t := by
  constructor
  · intro same
    have read := Calendar.dateFields_text d s
    rw [same, Calendar.dateFields_text e t] at read
    obtain ⟨rfl, rfl⟩ := Prod.mk.inj (Option.some.inj read)
    exact ⟨rfl, rfl⟩
  · rintro ⟨rfl, rfl⟩
    rfl

/-- The name of a day holds digits only, behind a sign for a far year. -/
theorem Date.mem_compact {d : Date} {c : Char} (h : c ∈ d.compact) :
    isAsciiDigit c = true ∨ c = '+' ∨ c = '-' := by
  simp only [Date.compact, List.mem_append] at h
  rcases h with (inYear | inMonth) | inDay
  · unfold Date.yearText at inYear
    split at inYear
    · split at inYear
      · exact .inl (isAsciiDigit_of_mem_padded inYear)
      · rcases List.mem_cons.mp inYear with sign | digits
        · exact .inr (.inl sign)
        · exact .inl (isAsciiDigit_of_mem_padded digits)
    · rcases List.mem_cons.mp inYear with sign | digits
      · exact .inr (.inr sign)
      · exact .inl (isAsciiDigit_of_mem_padded digits)
  · exact .inl (isAsciiDigit_of_mem_padded inMonth)
  · exact .inl (isAsciiDigit_of_mem_padded inDay)

/-- Months, days and years of a century are two digits wide. -/
theorem Date.length_pair {n : Nat} (fits : n < 100) : (padded 2 n).length = 2 :=
  length_padded (by decide) fits

/-- No two days have one name: month and day have two digits each, whatever the year has. -/
theorem Date.compact_injective : Function.Injective compact := by
  intro a b same
  have monthA := a.month_bounds
  have monthB := b.month_bounds
  have dayA := a.day_bounds
  have dayB := b.day_bounds
  obtain ⟨front, day⟩ := List.append_inj' same
    (by rw [length_pair (by omega), length_pair (by omega)])
  obtain ⟨year, month⟩ := List.append_inj' front
    (by rw [length_pair (by omega), length_pair (by omega)])
  have year := yearText_injective year
  have month := padded_injective 2 month
  have day := padded_injective 2 day
  obtain ⟨_, _, _, _⟩ := a
  obtain ⟨_, _, _, _⟩ := b
  simp_all

/-! ### Clocks -/

theorem Calendar.clockFields_secondsText (t : TimeOfDay) :
    Calendar.clockFields id (' ' :: t.secondsText) = some ((t.hour, t.minute, t.second), []) := by
  obtain ⟨hour, minute, second, -⟩ := t.isTime
  have text : t.secondsText = padded 2 t.hour ++ ':' :: (padded 2 t.minute ++ ':' ::
      padded 2 t.second) := by simp [TimeOfDay.secondsText, TimeOfDay.clockText]
  have readHour : ∀ rest, Calendar.field (' ' :: (padded 2 t.hour ++ rest)) = some (t.hour, rest) :=
    field_padded (show t.hour < 100 by omega)
  have readSecond : Calendar.field (padded 2 t.second) = some (t.second, []) := by
    simpa using field_padded (show t.second < 100 by omega) []
  simp only [text, Calendar.clockFields, readHour, mark_self,
    field_padded (show t.minute < 100 by omega), readSecond, id, Option.bind_eq_bind,
    Option.bind_some]

/-! ### Six digits -/

namespace Date

/-- The date that six digits name: the year of the century, the month and the day. -/
def ofStamp? (digits : List Char) : Option Date := do
  let year ← readNat? (numbersOf 31) (digits.take 2)
  let month ← readNat? (numbersOf 32) ((digits.drop 2).take 2)
  let day ← readNat? (numbersOf 32) (digits.drop 4)
  Date.of? (2000 + year) month day

theorem readNat?_pair {bound n : Nat} (fits : n < 100) (wide : 100 ≤ bound) :
    readNat? bound (padded 2 n) = some n := by
  have nonempty : padded 2 n ≠ [] := by simp [padded, natDigits_ne_nil]
  have value := digitsToNat_padded 2 n
  have read := readNat?_eq_some nonempty (fun c hc => isAsciiDigit_of_mem_padded hc)
    (show digitsToNat (padded 2 n) < bound by omega)
  rwa [value] at read

theorem isDigit_of_mem_stamp {date : Date} {c : Char} (h : c ∈ date.stamp) : isDigit c = true := by
  simp only [stamp, List.mem_append] at h
  rcases h with (year | month) | day
  · exact isDigit_of_isAsciiDigit (isAsciiDigit_of_mem_padded year)
  · exact isDigit_of_isAsciiDigit (isAsciiDigit_of_mem_padded month)
  · exact isDigit_of_isAsciiDigit (isAsciiDigit_of_mem_padded day)

variable {date : Date}

/-- The parts of a stamp are all two digits wide. -/
theorem parts_lt_hundred (date : Date) :
    (date.year % 100).toNat < 100 ∧ date.month < 100 ∧ date.day < 100 := by
  have month := date.month_bounds
  have day := date.day_bounds
  omega

theorem length_stamp (date : Date) : date.stamp.length = 6 := by
  obtain ⟨year, month, day⟩ := date.parts_lt_hundred
  rw [stamp, List.length_append, List.length_append, length_pair year, length_pair month,
    length_pair day]

/-- The stamp of a day of this century is read back. -/
theorem ofStamp?_stamp (low : 2000 ≤ date.year) (high : date.year ≤ 2099) :
    ofStamp? date.stamp = some date := by
  obtain ⟨year, month, day⟩ := date.parts_lt_hundred
  have first : date.stamp.take 2 = padded 2 (date.year % 100).toNat := by
    rw [stamp, List.append_assoc, List.take_left' (length_pair year)]
  have second : (date.stamp.drop 2).take 2 = padded 2 date.month := by
    rw [stamp, List.append_assoc, List.drop_left' (length_pair year),
      List.take_left' (length_pair month)]
  have third : date.stamp.drop 4 = padded 2 date.day := by
    rw [stamp, List.drop_left' (by simp [length_pair year, length_pair month])]
  have century : (2000 : Int) + ((date.year % 100).toNat : Nat) = date.year := by omega
  rw [ofStamp?, first, second, third, readNat?_pair year (by decide),
    readNat?_pair month (by decide), readNat?_pair day (by decide)]
  simp only [Option.bind_eq_bind, Option.bind_some]
  rw [century, of?, dif_pos date.isDate]

end Date

end RouteAlerts
