import RouteAlerts.Calendar.Date

/-!
Day numbers order dates (`toDays_lt_iff`) and tell them apart (`toDays_injective`). A day number
splits into the days before a year that is counted from March, the days before a month of that year
and the day of the month, and each of these parts is too small to reach into the next year or month.
-/

namespace RouteAlerts

namespace Date

/-- The year of a date when years start in March. -/
def marchYear (d : Date) : Int := if d.month ≤ 2 then d.year - 1 else d.year

/-- The month of a date when years start in March, which is month 0. -/
def marchMonth (d : Date) : Int := if d.month ≤ 2 then d.month + 9 else d.month - 3

/-- The days from the start of year 0 to the start of a year, both in March. -/
def daysBeforeYear (year : Int) : Int := year * 365 + year / 4 - year / 100 + year / 400

/-- The days before a month in a year that starts in March. -/
def daysBeforeMonth (month : Int) : Int := (153 * month + 2) / 5

theorem toDays_eq (d : Date) :
    d.toDays = daysBeforeYear d.marchYear + daysBeforeMonth d.marchMonth + d.day - 719469 := by
  change d.marchYear / 400 * 146097 + (d.marchYear % 400 * 365 + d.marchYear % 400 / 4
    - d.marchYear % 400 / 100 + ((153 * d.marchMonth + 2) / 5 + d.day - 1)) - 719468 = _
  unfold daysBeforeYear daysBeforeMonth
  generalize d.marchYear = year
  generalize (153 * d.marchMonth + 2) / 5 = days
  omega

/-! ### The lengths of months and years -/

theorem daysBeforeYear_mono {a b : Int} (h : a ≤ b) : daysBeforeYear a ≤ daysBeforeYear b := by
  unfold daysBeforeYear
  omega

theorem daysBeforeMonth_mono {a b : Int} (h : a ≤ b) : daysBeforeMonth a ≤ daysBeforeMonth b := by
  unfold daysBeforeMonth
  omega

/-- The leap day is the last day of a year that starts in March, so it belongs to the calendar year
after it. -/
theorem daysBeforeYear_eq (year : Int) :
    daysBeforeYear year = daysBeforeYear (year - 1) + if isLeapYear year then 366 else 365 := by
  unfold daysBeforeYear isLeapYear
  split <;> rename_i leap <;> simp at leap <;> omega

theorem daysInMonth_eq_zero {year : Int} {month : Nat} (h : ¬ (1 ≤ month ∧ month ≤ 12)) :
    daysInMonth year month = 0 := by
  unfold daysInMonth
  split <;> first | rfl | omega

theorem daysInMonth_le (year : Int) (month : Nat) : daysInMonth year month ≤ 31 := by
  unfold daysInMonth
  split <;> first | omega | (split <;> omega)

/-- From March to December a month is as long as the gap up to the next one. -/
theorem daysBeforeMonth_add_daysInMonth {year : Int} {month : Nat} (low : 3 ≤ month)
    (high : month ≤ 12) :
    daysBeforeMonth (month - 3) + daysInMonth year month ≤ daysBeforeMonth (month - 3 + 1) := by
  unfold daysBeforeMonth daysInMonth
  split <;> omega

theorem month_bounds (d : Date) : 1 ≤ d.month ∧ d.month ≤ 12 := by
  obtain ⟨-, -, first, last⟩ := d.isDate
  refine Decidable.byContradiction fun outside => ?_
  rw [daysInMonth_eq_zero outside] at last
  omega

theorem day_bounds (d : Date) : 1 ≤ d.day ∧ d.day ≤ 31 :=
  ⟨d.isDate.2.2.1, Nat.le_trans d.isDate.2.2.2 (daysInMonth_le d.year d.month)⟩

theorem marchMonth_bounds (d : Date) : 0 ≤ d.marchMonth ∧ d.marchMonth ≤ 11 := by
  have months := d.month_bounds
  unfold marchMonth
  split <;> omega

/-- A day of any month but February lies before the next month. -/
theorem daysBeforeMonth_add_day_le (d : Date) (h : d.marchMonth < 11) :
    daysBeforeMonth d.marchMonth + d.day ≤ daysBeforeMonth (d.marchMonth + 1) := by
  obtain ⟨-, -, -, last⟩ := d.isDate
  have months := d.month_bounds
  by_cases winter : d.month ≤ 2
  · -- January, the only month that is left here, has 31 days.
    have day := d.day_bounds.2
    simp only [marchMonth, winter, ↓reduceIte] at h ⊢
    unfold daysBeforeMonth
    omega
  · have length := @daysBeforeMonth_add_daysInMonth d.year _ (Nat.lt_of_not_le winter) months.2
    simp only [marchMonth, winter, ↓reduceIte]
    omega

/-- A day lies before the next year. -/
theorem daysBeforeYear_add_day_le (d : Date) :
    daysBeforeYear d.marchYear + daysBeforeMonth d.marchMonth + d.day ≤
      daysBeforeYear (d.marchYear + 1) := by
  obtain ⟨-, -, -, last⟩ := d.isDate
  have bounds := d.marchMonth_bounds
  by_cases february : d.month = 2
  · rw [february] at last
    have year := daysBeforeYear_eq d.year
    simp only [marchYear, marchMonth, february, daysInMonth, daysBeforeMonth] at last ⊢
    split at last <;> rename_i leap <;> simp [leap] at year ⊢ <;> omega
  · have early : d.marchMonth < 11 := by
      have months := d.month_bounds
      unfold marchMonth
      split <;> omega
    have day := d.daysBeforeMonth_add_day_le early
    have later := daysBeforeMonth_mono (show d.marchMonth + 1 ≤ 11 by omega)
    have year := daysBeforeYear_eq (d.marchYear + 1)
    rw [Int.add_sub_cancel] at year
    have longest : daysBeforeMonth 11 = 337 := rfl
    split at year <;> omega

/-! ### Dates in order -/

theorem toDays_lt_of_marchYear_lt {a b : Date} (h : a.marchYear < b.marchYear) :
    a.toDays < b.toDays := by
  have bound := a.daysBeforeYear_add_day_le
  have mono := daysBeforeYear_mono (Int.add_one_le_of_lt h)
  have months := daysBeforeMonth_mono b.marchMonth_bounds.1
  have first := b.day_bounds.1
  have start : daysBeforeMonth 0 = 0 := rfl
  rw [toDays_eq, toDays_eq]
  omega

theorem toDays_lt_of_marchMonth_lt {a b : Date} (years : a.marchYear = b.marchYear)
    (h : a.marchMonth < b.marchMonth) : a.toDays < b.toDays := by
  have bound := a.daysBeforeMonth_add_day_le (Int.lt_of_lt_of_le h b.marchMonth_bounds.2)
  have mono := daysBeforeMonth_mono (Int.add_one_le_of_lt h)
  have first := b.day_bounds.1
  rw [toDays_eq, toDays_eq, years]
  omega

theorem toDays_lt_of_day_lt {a b : Date} (years : a.marchYear = b.marchYear)
    (months : a.marchMonth = b.marchMonth) (h : a.day < b.day) : a.toDays < b.toDays := by
  rw [toDays_eq, toDays_eq, years, months]
  omega

/-- January and February come last in the year that starts in March, so this year orders dates as
the calendar year does. -/
theorem toDays_lt_of_fields_lt {a b : Date}
    (h : a.year < b.year ∨ a.year = b.year ∧
      (a.month < b.month ∨ a.month = b.month ∧ a.day < b.day)) : a.toDays < b.toDays := by
  have monthsA := a.month_bounds
  have monthsB := b.month_bounds
  have march : a.marchYear < b.marchYear ∨ a.marchYear = b.marchYear ∧
      (a.marchMonth < b.marchMonth ∨ a.marchMonth = b.marchMonth ∧ a.day < b.day) := by
    unfold marchYear marchMonth
    split <;> split <;> omega
  rcases march with year | ⟨years, month | ⟨months, day⟩⟩
  · exact toDays_lt_of_marchYear_lt year
  · exact toDays_lt_of_marchMonth_lt years month
  · exact toDays_lt_of_day_lt years months day

/-- Day numbers are in the order of year, month and day. -/
theorem toDays_lt_iff {a b : Date} :
    a.toDays < b.toDays ↔ a.year < b.year ∨ a.year = b.year ∧
      (a.month < b.month ∨ a.month = b.month ∧ a.day < b.day) := by
  refine ⟨fun h => Decidable.byContradiction fun no => ?_, toDays_lt_of_fields_lt⟩
  have fields : b.year < a.year ∨ b.year = a.year ∧
      (b.month < a.month ∨ b.month = a.month ∧ b.day ≤ a.day) := by omega
  rcases fields with year | ⟨year, month | ⟨month, day⟩⟩
  · exact absurd (toDays_lt_of_fields_lt (.inl year)) (by omega)
  · exact absurd (toDays_lt_of_fields_lt (.inr ⟨year, .inl month⟩)) (by omega)
  · rcases Nat.lt_or_eq_of_le day with less | same
    · exact absurd (toDays_lt_of_fields_lt (.inr ⟨year, .inr ⟨month, less⟩⟩)) (by omega)
    · obtain ⟨_, _, _, _⟩ := a
      obtain ⟨_, _, _, _⟩ := b
      simp_all

/-- No two dates have the same day number. -/
theorem toDays_injective : Function.Injective toDays := by
  intro a b h
  have fields := mt toDays_lt_of_fields_lt (show ¬ a.toDays < b.toDays by omega)
  have reverse := mt toDays_lt_of_fields_lt (show ¬ b.toDays < a.toDays by omega)
  have year : a.year = b.year := by omega
  have month : a.month = b.month := by omega
  have day : a.day = b.day := by omega
  cases a
  cases b
  simp_all

/-- The years of four digits reach from 1 January of year 0 to 31 December of year 9999. -/
theorem toDays_bounds {d : Date} (low : 0 ≤ d.year) (high : d.year ≤ 9999) :
    -719528 ≤ d.toDays ∧ d.toDays ≤ 2932896 := by
  have months := d.marchMonth_bounds
  have first := d.day_bounds.1
  have monthStart := daysBeforeMonth_mono months.1
  have start : daysBeforeMonth 0 = 0 := rfl
  rw [toDays_eq]
  by_cases winter : d.month ≤ 2
  · have year : d.marchYear = d.year - 1 := if_pos winter
    have january : daysBeforeMonth 10 ≤ daysBeforeMonth d.marchMonth :=
      daysBeforeMonth_mono (by
        have := d.month_bounds
        simp only [marchMonth, if_pos winter]
        omega)
    have yearStart := daysBeforeYear_mono (show -1 ≤ d.marchYear by omega)
    have yearEnd := daysBeforeYear_mono (show d.marchYear + 1 ≤ 9999 by omega)
    have bound := d.daysBeforeYear_add_day_le
    simp only [daysBeforeYear, daysBeforeMonth] at *
    omega
  · have year : d.marchYear = d.year := if_neg winter
    have early : d.marchMonth < 10 := by
      have := d.month_bounds
      simp only [marchMonth, if_neg winter]
      omega
    have monthEnd := d.daysBeforeMonth_add_day_le (by omega)
    have december := daysBeforeMonth_mono (show d.marchMonth + 1 ≤ 10 by omega)
    have yearStart := daysBeforeYear_mono (show 0 ≤ d.marchYear by omega)
    have yearEnd := daysBeforeYear_mono (show d.marchYear ≤ 9999 by omega)
    simp only [daysBeforeYear, daysBeforeMonth] at *
    omega

/-! ### The day of the samples -/

theorem isDate_sample : IsDate 2025 8 15 := by decide

def sample : Date := ⟨2025, 8, 15, isDate_sample⟩

end Date

end RouteAlerts
