import RouteAlerts.Announcement.Clock
import RouteAlerts.Proofs.Bulletin.Partition
import RouteAlerts.Proofs.Calendar.DayNumber
import RouteAlerts.Proofs.Schedule.TimeRange

/-!
What becomes of a recognised clock. Bulletins and tables take digits of any script, and a time of
day is read from ASCII digits alone. A clock in ASCII digits is read as it is printed
(`ofPrinted?_of_isAscii`); a clock with another digit is not read and counts as nine in the morning
(`ofPrinted?_of_not_isAscii`). So of the clocks that name a time of day exactly those in ASCII
digits are read as they are printed, and those that say nine (`isReadAsPrinted_iff`,
`clocks_read_if_ascii`).
-/

namespace RouteAlerts

open Text

/-! ### The value of digits -/

namespace Text

/-- The number that decimal digits of any script stand for, most significant first. -/
def decimalValue (s : List Char) : Nat := s.foldl (fun n c => 10 * n + (digitValue? c).getD 0) 0

theorem decimalValue_of_ascii {s : List Char} (ascii : ∀ c ∈ s, isAsciiDigit c = true) :
    decimalValue s = digitsToNat s := by
  apply List.foldl_ext
  intro n c hc
  rw [digitValue?_of_isAsciiDigit (ascii c hc)]
  rfl

/-- Digits are read as what they stand for when they are ASCII digits. -/
theorem readNat?_of_ascii {s : List Char} (nonempty : s ≠ [])
    (ascii : ∀ c ∈ s, isAsciiDigit c = true) (below : decimalValue s < numbersOf 32) :
    readNat? (numbersOf 32) s = some (decimalValue s) := by
  rw [decimalValue_of_ascii ascii] at below ⊢
  exact readNat?_eq_some nonempty ascii below

end Text

/-! ### Printed clocks as times of day -/

theorem TimeOfDay.clock?_eq_some_iff {hour minute : Nat} {t : TimeOfDay} :
    TimeOfDay.clock? hour minute = some t ↔
      t.hour = hour ∧ t.minute = minute ∧ t.second = 0 ∧ t.nano = 0 := by
  constructor
  · intro h
    obtain ⟨_, clock⟩ := Option.dite_none_right_eq_some.mp h
    obtain rfl := Option.some.inj clock
    exact ⟨rfl, rfl, rfl, rfl⟩
  · obtain ⟨h, m, second, nano, isTime⟩ := t
    rintro ⟨rfl, rfl, rfl, rfl⟩
    exact dif_pos isTime

namespace PrintedClock

def hourValue (c : PrintedClock) : Nat := decimalValue c.hour

def minuteValue (c : PrintedClock) : Nat := decimalValue c.minute

/-- Whether a clock is printed in ASCII digits. -/
structure IsAscii (c : PrintedClock) : Prop where
  hour : ∀ d ∈ c.hour, isAsciiDigit d = true
  minute : ∀ d ∈ c.minute, isAsciiDigit d = true

/-- The time of day that a clock is read as has the hour and the minute that are printed. -/
def IsReadAsPrinted (c : PrintedClock) : Prop :=
  TimeOfDay.clock? c.hourValue c.minuteValue = some (TimeOfDay.ofPrinted c.tight)

instance (c : PrintedClock) : Decidable c.IsReadAsPrinted := by
  unfold IsReadAsPrinted
  infer_instance

section Reading

variable {c : PrintedClock} (h : c.IsClock)
include h

/-- A clock without blanks is read from its hour and its minute. -/
theorem ofPrinted?_tight : TimeOfDay.ofPrinted? c.tight =
    (readNat? (numbersOf 32) c.hour).bind fun hour =>
      (readNat? (numbersOf 32) c.minute).bind (TimeOfDay.clock? hour) := by
  have clear : ∀ digits : List Char, (∀ d ∈ digits, isDigit d = true) →
      splitWhere (· == ':') digits = [digits] := by
    intro digits all
    refine splitWhere_eq_singleton fun d hd => Bool.eq_false_iff.mpr fun colon => ?_
    rw [beq_iff_eq] at colon
    exact absurd (colon ▸ all d hd) (by decide)
  have whole : trim c.tight = c.tight := by
    rw [← strip_raw h]
    apply trim_eq_self
    · intro d head
      simpa using (List.mem_filter.mp (List.mem_of_mem_head? head)).2
    · intro d last
      simpa using (List.mem_filter.mp (List.mem_of_getLast? last)).2
  have pieces : splitWhere (· == ':') c.tight = [c.hour, c.minute] := by
    rw [tight, splitWhere_append rfl, clear c.hour h.hourDigits, clear c.minute h.minuteDigits]
    rfl
  simp only [TimeOfDay.ofPrinted?, whole, pieces, trim_digits h.hourDigits,
    trim_digits h.minuteDigits, Option.bind_eq_bind]

/-- A clock in ASCII digits that names a time of day is read as that time. -/
theorem ofPrinted?_of_isAscii (ascii : c.IsAscii) (hour : c.hourValue ≤ 23)
    (minute : c.minuteValue ≤ 59) :
    TimeOfDay.ofPrinted? c.tight = TimeOfDay.clock? c.hourValue c.minuteValue := by
  have bound : 59 < numbersOf 32 := by decide
  have hourNonempty : c.hour ≠ [] := by
    intro empty
    have length := h.hour
    simp [empty] at length
  have minuteNonempty : c.minute ≠ [] := by
    intro empty
    have length := h.minute
    simp [empty] at length
  have readHour := readNat?_of_ascii hourNonempty ascii.hour (by
    change c.hourValue < _
    omega)
  have readMinute := readNat?_of_ascii minuteNonempty ascii.minute (by
    change c.minuteValue < _
    omega)
  rw [ofPrinted?_tight h, readHour, readMinute]
  rfl

/-- A clock with a digit of another script is not read. -/
theorem ofPrinted?_of_not_isAscii (other : ¬ c.IsAscii) : TimeOfDay.ofPrinted? c.tight = none := by
  refine Option.eq_none_iff_forall_not_mem.mpr fun t read => ?_
  rw [ofPrinted?_tight h] at read
  obtain ⟨hour, readHour, read⟩ := Option.bind_eq_some_iff.mp read
  obtain ⟨minute, readMinute, -⟩ := Option.bind_eq_some_iff.mp read
  exact other ⟨((readNat?_run_iff h.hourDigits).mp readHour).2.1,
    ((readNat?_run_iff h.minuteDigits).mp readMinute).2.1⟩

/-- Of the clocks that name a time of day those in ASCII digits are read as they are printed, and
those that say nine, which is what an unread clock counts as. -/
theorem isReadAsPrinted_iff (hour : c.hourValue ≤ 23) (minute : c.minuteValue ≤ 59) :
    c.IsReadAsPrinted ↔ c.IsAscii ∨ c.hourValue = 9 ∧ c.minuteValue = 0 := by
  by_cases ascii : c.IsAscii
  · have named : TimeOfDay.clock? c.hourValue c.minuteValue =
        some ⟨c.hourValue, c.minuteValue, 0, 0, by omega, by omega, by decide, by decide⟩ :=
      TimeOfDay.clock?_eq_some_iff.mpr ⟨rfl, rfl, rfl, rfl⟩
    rw [IsReadAsPrinted, TimeOfDay.ofPrinted, ofPrinted?_of_isAscii h ascii hour minute, named]
    exact ⟨fun _ => .inl ascii, fun _ => rfl⟩
  · rw [IsReadAsPrinted, TimeOfDay.ofPrinted, ofPrinted?_of_not_isAscii h ascii, Option.getD_none,
      TimeOfDay.clock?_eq_some_iff]
    constructor
    · rintro ⟨nine, zero, -, -⟩
      exact .inr ⟨nine.symm, zero.symm⟩
    · rintro (isAscii | ⟨nine, zero⟩)
      · exact absurd isAscii ascii
      · exact ⟨nine.symm, zero.symm, rfl, rfl⟩

end Reading

end PrintedClock

/-! ### Clocks of announcements and of tables -/

/-- A text is a clock. When it names a time of day, it is read as that time if and only if it is
printed in ASCII digits or says nine. -/
def IsReadIfAscii (s : List Char) : Prop :=
  ∃ c : PrintedClock, c.IsClock ∧ c.tight = s ∧
    (c.hourValue ≤ 23 → c.minuteValue ≤ 59 →
      (c.IsReadAsPrinted ↔ c.IsAscii ∨ c.hourValue = 9 ∧ c.minuteValue = 0))

theorem PrintedClock.isReadIfAscii {c : PrintedClock} (h : c.IsClock) : IsReadIfAscii c.tight :=
  ⟨c, h, rfl, isReadAsPrinted_iff h⟩

/-- The times of an announcement of a bulletin are two clocks without their blanks. -/
theorem Bulletin.exists_clocks {text : List Char} {date : Date} {a : Announcement}
    (h : a ∈ Bulletin.announcements text date) :
    ∃ start finish : PrintedClock, start.IsClock ∧ finish.IsClock ∧
      start.tight = a.startTime.toList ∧ finish.tight = a.endTime.toList := by
  obtain ⟨slots, scan⟩ := exists_scan takes_slot? (joinTimes text)
  have clocks := scan.forall_found
    (P := fun _ clocks => clocks.1.IsClock ∧ clocks.2.IsClock) (by
      intro s found rest read
      obtain ⟨r, isRange, rfl, split⟩ := slot?_eq_some read
      exact ⟨r.raw, ⟨isRange.start, isRange.finish⟩, split⟩)
  rw [announcements, scan.cut_eq, List.filterMap_map] at h
  obtain ⟨slot, inScan, announced⟩ := List.mem_filterMap.mp h
  have announces := announces_of_announce? announced
  obtain ⟨isStart, isFinish⟩ := clocks slot inScan
  refine ⟨slot.value.1, slot.value.2, isStart, isFinish, ?_, ?_⟩
  · rw [announces.startTime, PrintedClock.strip_raw isStart]
  · rw [announces.endTime, PrintedClock.strip_raw isFinish]

/-- The times that are recognised in a text, in the announcements of a bulletin or as the range of a
table cell that ends with a clock. When such a clock names a time of day, it is read as that time if
and only if it is printed in ASCII digits or says nine. -/
theorem clocks_read_if_ascii (text : List Char) (date : Date) :
    (∀ a ∈ Bulletin.announcements text date,
      IsReadIfAscii a.startTime.toList ∧ IsReadIfAscii a.endTime.toList) ∧
    ∀ range, Schedule.TimeRange.read? text = some range → ¬ range.IsOpen →
      IsReadIfAscii range.start ∧ IsReadIfAscii range.finish := by
  constructor
  · intro a announced
    obtain ⟨start, finish, isStart, isFinish, startEq, finishEq⟩ :=
      Bulletin.exists_clocks announced
    rw [← startEq, ← finishEq]
    exact ⟨start.isReadIfAscii isStart, finish.isReadIfAscii isFinish⟩
  · intro range read closed
    obtain ⟨start, finish, isStart, isFinish, startEq, finishEq⟩ :=
      Schedule.exists_clocks_of_read? read closed
    rw [← startEq, ← finishEq]
    exact ⟨start.isReadIfAscii isStart, finish.isReadIfAscii isFinish⟩

/-- A slot of half past ten in full-width digits starts at nine. -/
theorem clocks_not_all_read :
    ¬ ∀ (text : List Char) (date : Date), ∀ a ∈ Bulletin.announcements text date,
      ∀ c : PrintedClock, c.IsClock → c.tight = a.startTime.toList →
        c.hourValue ≤ 23 → c.minuteValue ≤ 59 → c.IsReadAsPrinted := by
  intro keeps
  let clock : PrintedClock := ⟨"１０".toList, [], [], "３０".toList⟩
  have row : ∃ a ∈ Bulletin.announcements "１０:３０~１２:００ 광화문".toList Date.sample,
      clock.tight = a.startTime.toList := by
    decide +kernel
  obtain ⟨a, announced, start⟩ := row
  have read := keeps _ Date.sample a announced clock (by decide) start (by decide) (by decide)
  exact absurd read (by decide +kernel)

end RouteAlerts
