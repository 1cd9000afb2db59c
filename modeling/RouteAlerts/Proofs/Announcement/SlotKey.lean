import RouteAlerts.Announcement.Merge
import RouteAlerts.Proofs.Event.Draft
import RouteAlerts.Proofs.Text.Order

/-!
The keys of slots. A key is one text: a date, a clock and a place with bars between them. A place
may hold bars, digits and signs of its own, and a year may have a sign and any number of digits.
Still no two slots share a key (`slotKey_eq_iff`), because the parts are told apart from the front:
a date ends where its reader stops, whatever follows, and a clock has five characters.
-/

namespace RouteAlerts

open Text

namespace TimeOfDay

variable {t u : TimeOfDay}

theorem IsFullMinute.eq_iff (ht : t.IsFullMinute) (hu : u.IsFullMinute) :
    t = u ↔ t.hour = u.hour ∧ t.minute = u.minute := by
  obtain ⟨secondT, nanoT⟩ := ht
  obtain ⟨secondU, nanoU⟩ := hu
  obtain ⟨_, _, _, _, _⟩ := t
  obtain ⟨_, _, _, _, _⟩ := u
  simp_all

/-- A clock of hour and minute has a fixed width, and tells full minutes apart. -/
theorem clockText_append_inj {x y : List Char} (ht : t.IsFullMinute) (hu : u.IsFullMinute) :
    t.clockText ++ x = u.clockText ++ y ↔ t = u ∧ x = y := by
  obtain ⟨hourT, minuteT, -, -⟩ := t.isTime
  obtain ⟨hourU, minuteU, -, -⟩ := u.isTime
  have pairs : ∀ {m n : Nat} {x y : List Char}, m < 100 → n < 100 →
      (padded 2 m ++ x = padded 2 n ++ y ↔ m = n ∧ x = y) :=
    fun hm hn => padded_append_inj (by decide) hm hn
  simp only [clockText, List.append_assoc, List.cons_append]
  rw [pairs (by omega) (by omega), List.cons_inj_right, pairs (by omega) (by omega), ht.eq_iff hu,
    and_assoc]

end TimeOfDay

/-- Keys that start at full minutes are told apart by their texts. -/
theorem SlotKey.text_inj {k l : SlotKey} (hk : k.start.IsFullMinute) (hl : l.start.IsFullMinute) :
    k.text = l.text ↔ k = l := by
  simp only [text, List.append_assoc, List.cons_append]
  rw [Date.text_append_inj, List.cons_inj_right, TimeOfDay.clockText_append_inj hk hl,
    List.cons_inj_right]
  obtain ⟨_, _, _⟩ := k
  obtain ⟨_, _, _⟩ := l
  rw [mk.injEq]

namespace Announcement

/-- Two places have one key exactly when they are announced for one day and one clock, and agree in
what a search is asked for, or in all that is not blank where a search keeps nothing of a name. -/
theorem slotKey_eq_iff {a b : Announcement} {p q : String} :
    a.slotKey p = b.slotKey q ↔
      a.date = b.date ∧
      TimeOfDay.ofPrinted a.startTime.toList = TimeOfDay.ofPrinted b.startTime.toList ∧
      SlotKey.placePart p.toList = SlotKey.placePart q.toList := by
  -- The clock of a key shows no seconds, and a printed time has none to show.
  have minute : ∀ (c : Announcement) (r : String), (SlotKey.of c r).start.IsFullMinute :=
    fun c _ => TimeOfDay.isFullMinute_ofPrinted c.startTime.toList
  rw [slotKey, slotKey, SlotKey.text_inj (minute a p) (minute b q), SlotKey.of, SlotKey.of,
    SlotKey.mk.injEq]
  rfl

/-- A sign in the year and a bar in the place do not blur where the clock stands. -/
example :
    let a : Announcement :=
      ⟨.primaryBoard, ⟨12025, 8, 15, by decide⟩, "9:00", "12:00", ["앞|뒤"], none, none, none⟩
    a.slotKey "앞|뒤" = "+12025-08-15|09:00|앞|뒤".toList := by
  decide +kernel

end Announcement

end RouteAlerts
