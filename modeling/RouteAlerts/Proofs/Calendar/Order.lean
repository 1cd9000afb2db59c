import Mathlib.Algebra.Order.Ring.Int
import Mathlib.Order.Lattice
import RouteAlerts.Calendar.Moment
import RouteAlerts.Proofs.Calendar.DayNumber

/-!
The order of moments. Every minute counts sixty-one seconds, so that a leap second lies between the
second before it and the next minute.
-/

namespace RouteAlerts

namespace Moment

/-- The place of a moment in time: its billionths of a second, a leap second being counted in every
minute. -/
def ticks (m : Moment) : Int :=
  (((m.date.toDays * 24 + m.time.hour) * 60 + m.time.minute) * 61 + m.time.second) * 1000000000 +
    m.time.nano

theorem ticks_injective : Function.Injective ticks := by
  intro a b h
  obtain ⟨hourA, minuteA, secondA, nanoA⟩ := a.time.isTime
  obtain ⟨hourB, minuteB, secondB, nanoB⟩ := b.time.isTime
  unfold ticks at h
  have date : a.date = b.date := Date.toDays_injective (by omega)
  have hour : a.time.hour = b.time.hour := by omega
  have minute : a.time.minute = b.time.minute := by omega
  have second : a.time.second = b.time.second := by omega
  have nano : a.time.nano = b.time.nano := by omega
  obtain ⟨_, _, _, _, _, _⟩ := a
  obtain ⟨_, _, _, _, _, _⟩ := b
  simp_all

instance : LinearOrder Moment := LinearOrder.lift' ticks ticks_injective

theorem lt_iff_ticks_lt {a b : Moment} : a < b ↔ a.ticks < b.ticks := Iff.rfl

theorem le_iff_ticks_le {a b : Moment} : a ≤ b ↔ a.ticks ≤ b.ticks := Iff.rfl

/-- Cutting to whole seconds keeps moments in order. -/
theorem truncate_mono {a b : Moment} (h : a ≤ b) : a.truncate ≤ b.truncate := by
  have nanoA := a.time.isTime.2.2.2
  have nanoB := b.time.isTime.2.2.2
  rw [le_iff_ticks_le] at h ⊢
  simp only [ticks, truncate] at h ⊢
  omega

/-- Whole seconds are in the order of date, hour, minute and second. -/
theorem truncate_lt_truncate_iff {a b : Moment} :
    a.truncate < b.truncate ↔ a.date.toDays < b.date.toDays ∨ a.date.toDays = b.date.toDays ∧
      (a.time.hour < b.time.hour ∨ a.time.hour = b.time.hour ∧
        (a.time.minute < b.time.minute ∨ a.time.minute = b.time.minute ∧
          a.time.second < b.time.second)) := by
  obtain ⟨hourA, minuteA, secondA, -⟩ := a.time.isTime
  obtain ⟨hourB, minuteB, secondB, -⟩ := b.time.isTime
  rw [lt_iff_ticks_lt]
  simp only [ticks, truncate]
  omega

end Moment

end RouteAlerts
