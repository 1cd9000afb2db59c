import RouteAlerts.Proofs.Bytes.Utf8
import RouteAlerts.Proofs.Calendar.Order
import RouteAlerts.Proofs.Event.Timestamp
import RouteAlerts.Proofs.Text.Order

/-!
The order of timestamps. Their six numbers have a fixed width and stand from the year down to the
second, so in years of four digits the texts sort like the moments that they stand for
(`write_lt_write_iff`), and so do their bytes, which are what the store compares. Moments of one
second have one timestamp, from which that second is read back (`sorts_like_moments`).
-/

namespace RouteAlerts.Timestamp

open Text

/-- Timestamps sort like moments cut to whole seconds, a leap second included. -/
theorem write_lt_write_iff {a b : Moment} (yearA : a.date.HasPlainYear)
    (yearB : b.date.HasPlainYear) : write a < write b ↔ a.truncate < b.truncate := by
  obtain ⟨hourA, minuteA, secondA, -⟩ := a.time.isTime
  obtain ⟨hourB, minuteB, secondB, -⟩ := b.time.isTime
  have monthsA := a.date.month_bounds
  have monthsB := b.date.month_bounds
  have daysA := a.date.day_bounds
  have daysB := b.date.day_bounds
  -- Numbers of one width compare as texts do, whatever follows; the rest is the order by fields.
  have pairs : ∀ {m n : Nat} {x y : List Char}, m < 100 → n < 100 →
      (padded 2 m ++ x < padded 2 n ++ y ↔ m < n ∨ m = n ∧ x < y) :=
    fun hm hn => padded_append_lt_iff (by decide) hm hn
  have seconds : padded 2 a.time.second < padded 2 b.time.second ↔
      a.time.second < b.time.second := by
    have last := @pairs a.time.second b.time.second [] [] (by omega) (by omega)
    simpa using last
  have dates := @Date.toDays_lt_iff a.date b.date
  have reverse := @Date.toDays_lt_iff b.date a.date
  unfold Date.HasPlainYear at yearA yearB
  rw [write_eq yearA, write_eq yearB,
    padded_append_lt_iff (by decide) (show a.date.year.toNat < 10000 by omega)
      (show b.date.year.toNat < 10000 by omega),
    List.cons_lt_cons_self, pairs (by omega) (by omega),
    List.cons_lt_cons_self, pairs (by omega) (by omega),
    List.cons_lt_cons_self, pairs (by omega) (by omega),
    List.cons_lt_cons_self, pairs (by omega) (by omega),
    List.cons_lt_cons_self, seconds, Moment.truncate_lt_truncate_iff]
  omega

/-- A timestamp does not tell the fraction of a second. -/
theorem write_truncate (m : Moment) : write m.truncate = write m := rfl

/-- Two moments have one timestamp exactly when they lie in one second. -/
theorem write_eq_write_iff {a b : Moment} : write a = write b ↔ a.truncate = b.truncate := by
  constructor
  · -- What is read back is all that the text tells.
    intro same
    have readA := read?_write_of_any a
    rw [same, read?_write_of_any b] at readA
    exact (Option.some.inj readA).symm
  · intro same
    rw [← write_truncate a, same, write_truncate]

/-- In years of four digits timestamps compare byte by byte like moments cut to whole seconds, they
are equal exactly when these are, and each reads back as its moment cut to whole seconds. -/
theorem sorts_like_moments {a b : Moment} (yearA : a.date.HasPlainYear)
    (yearB : b.date.HasPlainYear) :
    (Utf8.encode (write a) < Utf8.encode (write b) ↔ a.truncate < b.truncate) ∧
      (write a = write b ↔ a.truncate = b.truncate) ∧
      read? (write a) = some a.truncate := by
  refine ⟨?_, write_eq_write_iff, read?_write_of_any a⟩
  rw [Utf8.encode_lt_encode_iff, write_lt_write_iff yearA yearB]

def sampleLeapDay : Moment := ⟨⟨996, 2, 29, by decide⟩, ⟨23, 59, 59, 999999999, by decide⟩⟩

/-- The first moment of a year without one, at midnight like the moment from which seconds are
counted. -/
def sampleMillennium : Moment := ⟨⟨1000, 1, 1, by decide⟩, Moment.epoch.time⟩

/-- Every number of the earlier moment is the greater one except its year, which has a zero in
front. -/
theorem sorts_like_moments_sample :
    sampleLeapDay.date.HasPlainYear ∧ sampleMillennium.date.HasPlainYear ∧
      write sampleLeapDay = "0996-02-29 23:59:59".toList ∧
      Utf8.encode (write sampleLeapDay) < Utf8.encode (write sampleMillennium) ∧
      write sampleLeapDay ≠ write sampleMillennium ∧
      read? (write sampleLeapDay) = some sampleLeapDay.truncate := by
  have yearA : sampleLeapDay.date.HasPlainYear := by decide
  have yearB : sampleMillennium.date.HasPlainYear := by decide
  obtain ⟨order, same, back⟩ := sorts_like_moments yearA yearB
  refine ⟨yearA, yearB, by decide +kernel, order.mpr (by decide), ?_, back⟩
  exact mt same.mp (by decide)

end RouteAlerts.Timestamp
