import RouteAlerts.Event.Timestamp
import RouteAlerts.Proofs.Calendar.Written

/-!
Timestamps of plain moments, those in a year of four digits and outside a leap second. Their text is
six numbers of fixed width, and the store's own idea of its day is the day number of the date
(`day?_write`). In other years the store may have no idea of the day, but never a wrong one
(`eq_toDays_of_day?_write`). In any year the text reads back as the moment cut to whole seconds
(`read?_write_of_any`).
-/

namespace RouteAlerts

open Text

/-- A year from 0 to 9999. -/
def Date.HasPlainYear (d : Date) : Prop := 0 ≤ d.year ∧ d.year ≤ 9999

instance (d : Date) : Decidable d.HasPlainYear := by unfold Date.HasPlainYear; infer_instance

/-- A moment whose timestamp has four digits for the year and whose minute has sixty seconds. -/
def Moment.IsPlain (m : Moment) : Prop :=
  0 ≤ m.date.year ∧ m.date.year ≤ 9999 ∧ m.time.second ≤ 59

instance (m : Moment) : Decidable m.IsPlain := by unfold Moment.IsPlain; infer_instance

theorem Moment.IsPlain.year {m : Moment} (plain : m.IsPlain) : m.date.HasPlainYear :=
  ⟨plain.1, plain.2.1⟩

namespace Timestamp

/-! ### The text of a plain moment -/

def behindYear (m : Moment) : List Char :=
  '-' :: (padded 2 m.date.month ++ '-' :: (padded 2 m.date.day ++ ' ' ::
    (padded 2 m.time.hour ++ ':' :: (padded 2 m.time.minute ++ ':' :: padded 2 m.time.second))))

theorem write_eq_year (m : Moment) : write m = Date.yearText m.date.year ++ behindYear m := by
  simp [write, Date.text, TimeOfDay.secondsText, TimeOfDay.clockText, behindYear]

theorem write_eq {m : Moment} (year : m.date.HasPlainYear) :
    write m = padded 4 m.date.year.toNat ++ '-' :: (padded 2 m.date.month ++ '-' ::
      (padded 2 m.date.day ++ ' ' :: (padded 2 m.time.hour ++ ':' ::
        (padded 2 m.time.minute ++ ':' :: padded 2 m.time.second)))) := by
  rw [write_eq_year, Date.yearText_eq year.1 year.2, behindYear]

/-! ### Days -/

theorem number?_padded {width low high n : Nat} (positive : 0 < width) (fits : n < Nat.pow 10 width)
    (bounds : low ≤ n ∧ n ≤ high) (rest : List Char) :
    number? width low high (padded width n ++ rest) = some (n, rest) := by
  have length := length_padded positive fits
  have taken : (padded width n ++ rest).take width = padded width n := List.take_left' length
  have left : (padded width n ++ rest).drop width = rest := List.drop_left' length
  have digits : (padded width n).all isAsciiDigit = true :=
    List.all_eq_true.mpr fun c => isAsciiDigit_of_mem_padded
  simp [number?, taken, left, length, digits, digitsToNat_padded, bounds]

theorem pair?_padded {high a b : Nat} {rest : List Char} (ha : a ≤ high ∧ a < 100) (hb : b ≤ 59) :
    pair? high (padded 2 a ++ ':' :: (padded 2 b ++ rest)) = some ((a, b), rest) := by
  have second : number? 2 0 59 (padded 2 b ++ rest) = some (b, rest) :=
    number?_padded (by decide) (show b < 100 by omega) ⟨by omega, hb⟩ rest
  rw [pair?, number?_padded (by decide) ha.2 ⟨by omega, ha.1⟩]
  simp [second]

theorem time?_padded {hour minute second : Nat} (ha : hour ≤ 24) (hb : minute ≤ 59)
    (hc : second ≤ 59) :
    time? (padded 2 hour ++ ':' :: (padded 2 minute ++ ':' :: padded 2 second)) =
      some (hour * 3600 + minute * 60 + second, none) := by
  have seconds : number? 2 0 59 (padded 2 second) = some (second, []) := by
    simpa using number?_padded (by decide : 0 < 2) (show second < 100 by omega) ⟨by omega, hc⟩ []
  simp [time?, pair?_padded ⟨ha, by omega⟩ hb, seconds, zone?]

/-- A time without a zone does not move a date to another day. -/
theorem dayOf?_eq_some_iff {d : Date} {seconds : Nat} {n : Int} (short : seconds < 86400) :
    dayOf? d.year d.month d.day (some (seconds, none)) = some n ↔
      (-4713 ≤ d.year ∧ d.year ≤ 9999 ∧ range.1 ≤ d.toDays * 86400 + seconds ∧
        d.toDays * 86400 + seconds ≤ range.2) ∧ d.toDays = n := by
  have days := d.day_bounds
  have firstIsDate : IsDate d.year d.month 1 :=
    ⟨d.isDate.1, d.isDate.2.1, by omega, Nat.le_trans days.1 d.isDate.2.2.2⟩
  have counted : (Date.mk d.year d.month 1 firstIsDate).toDays + (d.day - 1 : Nat) = d.toDays := by
    simp only [Date.toDays]
    omega
  have sameDay : (d.toDays * 86400 + seconds) / 86400 = d.toDays := by omega
  by_cases year : -4713 ≤ d.year ∧ d.year ≤ 9999
  · rw [dayOf?, if_neg (by simp; omega)]
    by_cases inRange : range.1 ≤ d.toDays * 86400 + seconds ∧
        d.toDays * 86400 + seconds ≤ range.2
    · simp [Date.of?, firstIsDate, counted, dayOfSecond?, inRange, sameDay, year]
    · have outside : ¬ (-4713 ≤ d.year ∧ d.year ≤ 9999 ∧ range.1 ≤ d.toDays * 86400 + seconds ∧
          d.toDays * 86400 + seconds ≤ range.2) := fun h => inRange h.2.2
      refine ⟨fun h => ?_, fun h => absurd h.1 outside⟩
      simp [Date.of?, firstIsDate, counted, dayOfSecond?, inRange] at h
  · rw [dayOf?, if_pos (by simp; omega)]
    refine iff_of_false (fun h => ?_) fun h => year ⟨h.1.1, h.1.2.1⟩
    cases h

/-- The time of day that stands behind the date of a timestamp. -/
theorem dropWhile_padded {n : Nat} {rest : List Char} :
    (' ' :: (padded 2 n ++ rest)).dropWhile (fun c => isSpace c || c == 'T') =
      padded 2 n ++ rest := by
  refine @dropWhile_append_stop _ _ [' '] _ (by simp [isSpace]) fun c head => ?_
  have digit := isAsciiDigit_iff.mp (isAsciiDigit_head_padded c head)
  have space : c ≠ ' ' := by rintro rfl; exact absurd digit (by decide)
  have letter : c ≠ 'T' := by rintro rfl; exact absurd digit (by decide)
  simp [isSpace, space, letter]
  omega

/-- A timestamp is read as a date, whether a sign stands before its year or not, if the year has
four digits. -/
theorem datedDay?_behindYear {year : Nat} {m : Moment} (fits : year ≤ 9999)
    (noLeap : m.time.second ≤ 59) :
    let time := m.time.hour * 3600 + m.time.minute * 60 + m.time.second
    datedDay? (padded 4 year ++ behindYear m) =
        dayOf? year m.date.month m.date.day (some (time, none)) ∧
      datedDay? ('-' :: (padded 4 year ++ behindYear m)) =
        dayOf? (-year) m.date.month m.date.day (some (time, none)) := by
  obtain ⟨hour, minute, -, -⟩ := m.time.isTime
  -- Each number is written with all its places, so its reader stops at the next sign.
  have months := m.date.month_bounds
  have days := m.date.day_bounds
  have readYear : ∀ rest, number? 4 0 9999 (padded 4 year ++ rest) = some (year, rest) :=
    number?_padded (by decide) (show year < 10000 by omega) ⟨by omega, fits⟩
  have readMonth : ∀ rest, number? 2 1 12 (padded 2 m.date.month ++ rest) =
      some (m.date.month, rest) :=
    number?_padded (by decide) (show m.date.month < 100 by omega) months
  have readDay : ∀ rest, number? 2 1 31 (padded 2 m.date.day ++ rest) =
      some (m.date.day, rest) :=
    number?_padded (by decide) (show m.date.day < 100 by omega) days
  have readTime := time?_padded (Nat.le_of_lt hour) (Nat.le_of_lt_succ minute) noLeap
  constructor
  · unfold datedDay? behindYear
    simp only
    split
    · rename_i rest eq
      have digit := isAsciiDigit_head_padded '-' (by rw [eq]; rfl)
      exact absurd digit (by decide)
    · simp only [readYear, readMonth, readDay, Calendar.mark_self, dropWhile_padded,
        Option.bind_eq_bind, Option.bind_some, Bool.false_eq_true, if_false]
      split
      · rename_i empty
        simp at empty
      · rw [readTime, Option.bind_some]
  · unfold datedDay? behindYear
    simp only [readYear, readMonth, readDay, Calendar.mark_self, dropWhile_padded,
      Option.bind_eq_bind, Option.bind_some, if_true]
    split
    · rename_i empty
      simp at empty
    · rw [readTime, Option.bind_some]

/-- The store's day of a timestamp is the day number of its date. -/
theorem day?_write {m : Moment} (plain : m.IsPlain) : day? (write m) = some m.date.toDays := by
  obtain ⟨low, high, noLeap⟩ := plain
  obtain ⟨hour, minute, -, -⟩ := m.time.isTime
  have year : (m.date.year.toNat : Int) = m.date.year := Int.toNat_of_nonneg low
  have inRange := Date.toDays_bounds low high
  have dated : datedDay? (write m) = some m.date.toDays := by
    rw [write_eq_year, Date.yearText_eq low high, (datedDay?_behindYear (by omega) noLeap).1, year,
      dayOf?_eq_some_iff (by omega)]
    refine ⟨?_, rfl⟩
    simp only [range]
    omega
  rw [day?, dated]
  rfl

/-! ### Days of other years -/

theorem number?_eq_none_of_head {width low high : Nat} {s : List Char} (positive : 0 < width)
    (head : ∃ c ∈ s.head?, isAsciiDigit c = false) : number? width low high s = none := by
  obtain ⟨c, front, sign⟩ := head
  obtain ⟨rest, rfl⟩ := List.head?_eq_some_iff.mp front
  obtain ⟨width, rfl⟩ := Nat.exists_eq_add_one_of_ne_zero (Nat.ne_of_gt positive)
  simp [number?, sign]

/-- Where a year has more than four digits, no hyphen stands behind the first four. -/
theorem datedDay?_long {year : Nat} {rest : List Char} (long : 9999 < year) :
    datedDay? ('-' :: (padded 4 year ++ rest)) = none := by
  have width : 4 < (padded 4 year).length := by
    have digits := Nat.length_toDigits_le_iff (b := 10) (k := 4) (n := year) (by decide) (by decide)
    simp only [padded, List.length_append, natDigits]
    omega
  have noHyphen : Calendar.mark '-' ((padded 4 year ++ rest).drop 4) = none := by
    rw [List.drop_append_of_le_length (Nat.le_of_lt width)]
    obtain ⟨c, tail, cut⟩ := List.exists_cons_of_ne_nil
      (List.ne_nil_of_length_pos (show 0 < ((padded 4 year).drop 4).length by simp; omega))
    have digit : isAsciiDigit c = true :=
      isAsciiDigit_of_mem_padded (List.mem_of_mem_drop (cut ▸ List.mem_cons_self))
    have other : ¬ c = '-' := by
      rintro rfl
      exact absurd digit (by decide)
    simp [cut, Calendar.mark, other]
  unfold datedDay?
  simp only
  cases read : number? 4 0 9999 (padded 4 year ++ rest) with
  | none => rfl
  -- The reader takes four digits and then looks at the fifth.
  | some result =>
    have left : result.2 = (padded 4 year ++ rest).drop 4 := by
      unfold number? at read
      simp only at read
      split at read
      · split at read
        · rw [← Option.some.inj read]
        · cases read
      · cases read
    simp [left, noHyphen]

/-- A number with a hyphen behind it is no number. -/
theorem readUnsigned?_hyphen {digits : List Char} (ascii : ∀ c ∈ digits, isAsciiDigit c = true)
    (rest : List Char) : Decimal.readUnsigned? (digits ++ '-' :: rest) = none := by
  have hyphen : ∀ c ∈ ('-' :: rest).head?, isAsciiDigit c = false := by
    intro c head
    obtain rfl : '-' = c := by simpa using head
    decide
  unfold Decimal.readUnsigned?
  rw [takeWhile_append_stop ascii hyphen, dropWhile_append_stop ascii hyphen]
  simp [Decimal.readPower?]

theorem isAsciiDigit_last_behindYear {front : List Char} {m : Moment} :
    ∀ c ∈ (front ++ behindYear m).getLast?, isAsciiDigit c = true := by
  intro c last
  have digit : c ∈ padded 2 m.time.second := by
    cases written : (padded 2 m.time.second).getLast? with
    | none => simp [padded, natDigits_ne_nil] at written
    | some d =>
      have same : d = c := by
        simpa [behindYear, List.getLast?_append, List.getLast?_cons, written] using last
      exact same ▸ List.mem_of_getLast? written
  exact isAsciiDigit_of_mem_padded digit

/-- A signed year makes a text that is neither a time nor a number. -/
theorem day?_signed {sign : Char} (isSign : sign = '+' ∨ sign = '-') (year : Nat) (m : Moment) :
    day? (sign :: (padded 4 year ++ behindYear m)) =
      datedDay? (sign :: (padded 4 year ++ behindYear m)) := by
  have notDigit : isAsciiDigit sign = false := by
    rcases isSign with rfl | rfl <;> decide
  have notSpace : isSpace sign = false := by
    rcases isSign with rfl | rfl <;> decide
  -- The readers are tried in turn; those for a time and for a number stop at the sign or at the
  -- hyphen behind the year.
  have noTime : timedDay? (sign :: (padded 4 year ++ behindYear m)) = none := by
    have noNumber : number? 2 0 24 (sign :: (padded 4 year ++ behindYear m)) = none :=
      number?_eq_none_of_head (by decide) ⟨sign, rfl, notDigit⟩
    simp [timedDay?, time?, pair?, noNumber]
  have trimmed : trimWhere isSpace (sign :: (padded 4 year ++ behindYear m)) =
      sign :: (padded 4 year ++ behindYear m) := by
    rw [trimWhere, dropWhile_eq_self (by simpa using notSpace)]
    refine dropEndWhile_eq_self fun c last => ?_
    have digit := isAsciiDigit_iff.mp
      (@isAsciiDigit_last_behindYear (sign :: padded 4 year) m c last)
    have other : c ≠ ' ' := by rintro rfl; exact absurd digit (by decide)
    simp [isSpace, other]
    omega
  have noNumber : plainNumber? (sign :: (padded 4 year ++ behindYear m)) = none := by
    have text : Decimal.readUnsigned? (padded 4 year ++ behindYear m) = none :=
      readUnsigned?_hyphen (fun c => isAsciiDigit_of_mem_padded) _
    rw [plainNumber?, trimmed]
    rcases isSign with rfl | rfl
    · exact text
    · simp only [text, Option.filter_none]
  have noDay : julianDay? (sign :: (padded 4 year ++ behindYear m)) = none := by
    simp only [julianDay?, noNumber]
  rw [day?, noTime, noDay]
  cases datedDay? (sign :: (padded 4 year ++ behindYear m)) <;> rfl

/-- If the store tells the day of a timestamp at all, it is the day number of its date, whatever the
year. -/
theorem eq_toDays_of_day?_write {m : Moment} (noLeap : m.time.second ≤ 59) {n : Int}
    (h : day? (write m) = some n) : n = m.date.toDays := by
  obtain ⟨hour, minute, -, -⟩ := m.time.isTime
  cases year : m.date.year with
  | ofNat y =>
    by_cases short : y ≤ 9999
    · have value : m.date.year = (y : Int) := year
      have plain : m.IsPlain := ⟨by omega, by omega, noLeap⟩
      rw [day?_write plain] at h
      exact (Option.some.inj h).symm
    · -- A year of five digits carries a plus sign, and no date opens with one.
      have text : write m = '+' :: (padded 4 y ++ behindYear m) := by
        rw [write_eq_year, year, Date.yearText, if_neg short]
        rfl
      have noDate : datedDay? ('+' :: (padded 4 y ++ behindYear m)) = none := by
        have noYear : number? 4 0 9999 ('+' :: (padded 4 y ++ behindYear m)) = none :=
          number?_eq_none_of_head (by decide) ⟨'+', rfl, by decide⟩
        change (number? 4 0 9999 ('+' :: (padded 4 y ++ behindYear m))).bind _ = none
        rw [noYear, Option.bind_none]
      rw [text, day?_signed (.inl rfl), noDate] at h
      cases h
  | negSucc y =>
    have text : write m = '-' :: (padded 4 (y + 1) ++ behindYear m) := by
      rw [write_eq_year, year]
      rfl
    rw [text, day?_signed (.inr rfl)] at h
    by_cases short : y + 1 ≤ 9999
    · have same : (-((y + 1 : Nat) : Int)) = m.date.year := by rw [year]; rfl
      rw [(datedDay?_behindYear short noLeap).2, same, dayOf?_eq_some_iff (by omega)] at h
      exact h.2.symm
    · rw [datedDay?_long (Nat.lt_of_not_le short)] at h
      cases h

/-! ### Reading back -/

/-- A timestamp has no blanks around it. -/
theorem trim_write (m : Moment) : trim (write m) = write m := by
  rw [write_eq_year]
  apply trim_eq_self
  · exact Date.isBlank_head_yearText
  · intro c last
    exact isBlank_eq_false_of_isAsciiDigit (isAsciiDigit_last_behindYear c last)

/-- Every timestamp reads back as its moment without the fraction of a second, also in a signed year
and in a leap second. -/
theorem read?_write_of_any (m : Moment) : read? (write m) = some m.truncate := by
  have time : TimeOfDay.of? m.time.hour m.time.minute m.time.second 0 = some m.truncate.time :=
    dif_pos m.truncate.time.isTime
  rw [read?, Calendar.timestamp?, trim_write, write, Calendar.dateFields_text]
  simp only [Option.bind_eq_bind, Option.bind_some, Calendar.clockFields_secondsText, time]
  rfl

/-- In particular those of plain histories. -/
theorem read?_write {m : Moment} (_plain : m.IsPlain) : read? (write m) = some m.truncate :=
  read?_write_of_any m

end Timestamp

end RouteAlerts
