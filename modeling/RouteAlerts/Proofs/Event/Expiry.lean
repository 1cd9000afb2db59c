import RouteAlerts.Proofs.Event.History
import RouteAlerts.Proofs.Event.TimestampOrder
import RouteAlerts.Proofs.Lists

/-!
Events that are over. The store compares timestamps as texts, and timestamps sort like the moments
that they stand for (`write_lt_write_iff`). What the store marks as ended are therefore the active
events that start and end before the cutoff in time, also where an event ends before it starts; none
of them is upcoming at the cutoff or later, and two cutoffs one after the other end what the later
one ends alone (`endBefore_past`).
-/

namespace RouteAlerts

open Text

theorem Moment.hasPlainYear_max {m n : Moment} (yearM : m.date.HasPlainYear)
    (yearN : n.date.HasPlainYear) : (max m n).date.HasPlainYear := by
  rcases max_choice m n with eq | eq
  · rwa [eq]
  · rwa [eq]

/-! ### Past events -/

namespace Row

/-- An active event whose stored start and end can be read and lie before a moment. -/
def IsPast (r : Row) (m : Moment) : Prop :=
  r.status = .active ∧ (∃ start ∈ Timestamp.read? r.start, start < m) ∧
    ∃ finish ∈ Timestamp.read? r.finish, finish < m

instance (r : Row) (m : Moment) : Decidable (r.IsPast m) := by unfold IsPast; infer_instance

/-- A stored event, ended if it is past the whole seconds of a cutoff. -/
def expire (r : Row) (now cutoff : Moment) : Row :=
  if r.IsPast cutoff.truncate then { r with status := .ended, updatedAt := Timestamp.write now }
  else r

/-- A stored event without the time of its last change. -/
def unstamped (r : Row) : Row := { r with updatedAt := [] }

/-- A row whose start and end are the timestamps of plain moments. -/
def IsTimed (r : Row) : Prop :=
  ∃ start finish : Moment, start.IsPlain ∧ finish.IsPlain ∧
    r.start = Timestamp.write start ∧ r.finish = Timestamp.write finish

variable {r : Row} {now later m n cutoff : Moment}

/-- The later one of two texts lies before a third exactly when both do. -/
theorem last_lt_iff {t : List Char} : r.last < t ↔ r.start < t ∧ r.finish < t := by
  unfold last
  split
  · rename_i order
    exact ⟨fun less => ⟨List.lt_trans order less, less⟩, fun both => both.2⟩
  · rename_i order
    exact ⟨fun less => ⟨less, List.lt_of_le_of_lt order less⟩, fun both => both.1⟩

theorem IsPast.mono (past : r.IsPast m) (h : m ≤ n) : r.IsPast n := by
  obtain ⟨active, ⟨start, readStart, startBefore⟩, finish, readFinish, finishBefore⟩ := past
  exact ⟨active, ⟨start, readStart, lt_of_lt_of_le startBefore h⟩,
    finish, readFinish, lt_of_lt_of_le finishBefore h⟩

/-- The store compares texts, which is to compare moments. -/
theorem isOver_iff (timed : r.IsTimed) (year : cutoff.date.HasPlainYear) :
    r.isOver (Timestamp.write cutoff) = true ↔ r.IsPast cutoff.truncate := by
  obtain ⟨start, finish, plainStart, plainFinish, readStart, readFinish⟩ := timed
  simp [isOver, IsPast, last_lt_iff, readStart, readFinish, Timestamp.read?_write plainStart,
    Timestamp.read?_write plainFinish, Timestamp.write_lt_write_iff plainStart.year year,
    Timestamp.write_lt_write_iff plainFinish.year year]

/-- What starts before one moment does not start after a later one. -/
theorem isUpcoming_eq_false (timed : r.IsTimed) (year : n.date.HasPlainYear)
    (past : r.IsPast m.truncate) (h : m ≤ n) : r.isUpcoming (Timestamp.write n) = false := by
  obtain ⟨start, -, plain, -, written, -⟩ := timed
  obtain ⟨-, ⟨read, readStart, before⟩, -⟩ := past
  rw [written, Timestamp.read?_write plain, Option.mem_some] at readStart
  subst readStart
  have order : ¬ n.truncate < start.truncate :=
    not_lt_of_ge (le_of_lt (lt_of_lt_of_le before (Moment.truncate_mono h)))
  simp [isUpcoming, written, Timestamp.write_lt_write_iff year plain.year, order]

theorem expire_of_isPast (past : r.IsPast cutoff.truncate) : r.expire now cutoff =
    { r with status := .ended, updatedAt := Timestamp.write now } :=
  if_pos past

theorem expire_of_not_isPast (current : ¬ r.IsPast cutoff.truncate) : r.expire now cutoff = r :=
  if_neg current

/-- An event that has ended, or was ended by a cutoff, is not past any other. -/
theorem isPast_expire_iff : (r.expire now cutoff).IsPast m ↔
    ¬ r.IsPast cutoff.truncate ∧ r.IsPast m := by
  by_cases past : r.IsPast cutoff.truncate
  · rw [expire_of_isPast past]
    exact ⟨fun h => EventStatus.noConfusion h.1, fun h => absurd past h.1⟩
  · rw [expire_of_not_isPast past]
    exact ⟨fun h => ⟨past, h⟩, fun h => h.2⟩

/-- An event is past the later one of two cutoffs when it is past one of them. -/
theorem isPast_max_iff : r.IsPast (max m n).truncate ↔
    r.IsPast m.truncate ∨ r.IsPast n.truncate := by
  constructor
  · intro past
    rcases max_choice m n with eq | eq
    · exact .inl (eq ▸ past)
    · exact .inr (eq ▸ past)
  · rintro (past | past)
    · exact past.mono (Moment.truncate_mono (le_max_left m n))
    · exact past.mono (Moment.truncate_mono (le_max_right m n))

end Row

namespace EventStore

variable {s : EventStore} {now later cutoff m n : Moment}

/-- The invariant of plain histories: every event has a start and an end in time. -/
def IsTimed (s : EventStore) : Prop := ∀ r ∈ s.rows, r.IsTimed

theorem IsTimed.add (h : s.IsTimed) (now : Moment) {d : EventDraft} (plain : d.IsPlain) :
    (s.add now d).IsTimed := by
  intro r hr
  rcases mem_rows_add hr with old | rfl
  · exact h r old
  · exact ⟨d.start, d.finish, plain.1, plain.2, rfl, rfl⟩

theorem IsTimed.endBefore (h : s.IsTimed) (now cutoff : Moment) :
    (s.endBefore now cutoff).1.IsTimed :=
  forall_rows_endBefore (fun timed => timed) h now cutoff

theorem isTimed_after {calls : List StoreCall} (plain : ∀ c ∈ calls, c.IsPlain) :
    (after calls).IsTimed :=
  after_induction (fun _ h => absurd h List.not_mem_nil) (fun _ now _ plain h => h.add now plain)
    (fun _ now cutoff h => h.endBefore now cutoff) plain

/-! ### One cutoff -/

/-- The store ends the events that are past the cutoff. -/
theorem IsTimed.endBefore_fst (h : s.IsTimed) (year : cutoff.date.HasPlainYear) :
    (s.endBefore now cutoff).1 = { s with rows := s.rows.map (·.expire now cutoff) } := by
  have rows : ∀ r ∈ s.rows, (if r.isOver (Timestamp.write cutoff) = true then
      { r with status := .ended, updatedAt := Timestamp.write now } else r) =
      r.expire now cutoff := by
    intro r hr
    simp only [Row.expire, Row.isOver_iff (h r hr) year]
  unfold EventStore.endBefore
  simp only [List.map_congr_left rows]

/-- The count is the number of events that are past the cutoff. -/
theorem IsTimed.endBefore_snd (h : s.IsTimed) (year : cutoff.date.HasPlainYear) :
    (s.endBefore now cutoff).2 = s.rows.countP fun r => decide (r.IsPast cutoff.truncate) := by
  refine List.countP_congr fun r hr => ?_
  rw [Row.isOver_iff (h r hr) year, decide_eq_true_eq]

/-- No event that ends at a cutoff was upcoming then or is at any time later. -/
theorem IsTimed.upcoming?_endBefore (h : s.IsTimed) (yearM : m.date.HasPlainYear)
    (yearN : n.date.HasPlainYear) (order : m ≤ n) :
    (s.endBefore now m).1.upcoming? n = s.upcoming? n := by
  have rows : (s.endBefore now m).1.upcomingRows n = s.upcomingRows n := by
    rw [h.endBefore_fst yearM]
    unfold upcomingRows
    congr 1
    refine filter_map_eq_filter fun r hr => ?_
    by_cases past : r.IsPast m.truncate
    · right
      constructor
      · rw [Row.expire_of_isPast past]
        rfl
      · exact Row.isUpcoming_eq_false (h r hr) yearN past order
    · left
      exact Row.expire_of_not_isPast past
  rw [upcoming?, rows, upcoming?]

/-! ### Two cutoffs -/

/-- A second cutoff after a first one does to an event what the later one of the two does, except
for the time of its last change. -/
theorem unstamped_expire_expire (r : Row) (now later once m n : Moment) :
    ((r.expire now m).expire later n).unstamped = (r.expire once (max m n)).unstamped := by
  by_cases first : r.IsPast m.truncate
  · have done : ¬ (r.expire now m).IsPast n.truncate :=
      fun h => (Row.isPast_expire_iff.mp h).1 first
    rw [Row.expire_of_not_isPast done, Row.expire_of_isPast first,
      Row.expire_of_isPast (Row.isPast_max_iff.mpr (.inl first))]
    rfl
  · rw [Row.expire_of_not_isPast first]
    by_cases second : r.IsPast n.truncate
    · rw [Row.expire_of_isPast second, Row.expire_of_isPast (Row.isPast_max_iff.mpr (.inr second))]
      rfl
    · have neither : ¬ r.IsPast (max m n).truncate := by
        intro past
        rcases Row.isPast_max_iff.mp past with past | past
        · exact first past
        · exact second past
      rw [Row.expire_of_not_isPast second, Row.expire_of_not_isPast neither]

/-- Two cutoffs one after the other leave the events as the later one alone does. -/
theorem IsTimed.endBefore_endBefore_rows (h : s.IsTimed) (yearM : m.date.HasPlainYear)
    (yearN : n.date.HasPlainYear) (now later once : Moment) :
    (((s.endBefore now m).1.endBefore later n).1.rows.map Row.unstamped) =
      ((s.endBefore once (max m n)).1.rows.map Row.unstamped) := by
  have yearMax := Moment.hasPlainYear_max yearM yearN
  rw [(h.endBefore now m).endBefore_fst yearN, h.endBefore_fst yearM, h.endBefore_fst yearMax]
  simp only [List.map_map]
  exact List.map_congr_left fun r _ => unstamped_expire_expire r now later once m n

/-- The counts of two cutoffs add up to the count of the later one alone. -/
theorem IsTimed.endBefore_endBefore_snd (h : s.IsTimed) (yearM : m.date.HasPlainYear)
    (yearN : n.date.HasPlainYear) (now later once : Moment) :
    (s.endBefore now m).2 + ((s.endBefore now m).1.endBefore later n).2 =
      (s.endBefore once (max m n)).2 := by
  have yearMax := Moment.hasPlainYear_max yearM yearN
  rw [(h.endBefore now m).endBefore_snd yearN, h.endBefore_fst yearM, h.endBefore_snd yearM,
    h.endBefore_snd yearMax, List.countP_map]
  refine countP_add_countP fun r _ => ?_
  simp only [Function.comp_apply, decide_eq_true_eq, Row.isPast_expire_iff, Row.isPast_max_iff]
  tauto

/-! ### After every history -/

/-- After every plain history, to end what is over before a cutoff changes nothing but the status
and the time of the last change, and these only of the active events whose start and end lie before
the whole seconds of the cutoff, and counts them. It takes nothing from what is upcoming at the
cutoff or later. A second cutoff leaves the events, apart from the time of their last change, as the
later one of the two does alone, and the two counts add up to its count. -/
theorem endBefore_past {calls : List StoreCall} (plain : ∀ c ∈ calls, c.IsPlain) {m : Moment}
    (year : m.date.HasPlainYear) (now : Moment) :
    let s := after calls
    (s.endBefore now m).1 = { s with
        rows := s.rows.map fun r =>
          if r.IsPast m.truncate then { r with status := .ended, updatedAt := Timestamp.write now }
          else r } ∧
      (s.endBefore now m).2 = (s.rows.filter fun r => r.IsPast m.truncate).length ∧
      (∀ n : Moment, n.date.HasPlainYear → m ≤ n →
        (s.endBefore now m).1.upcoming? n = s.upcoming? n) ∧
      ∀ n later once : Moment, n.date.HasPlainYear →
        let both := (s.endBefore now m).1.endBefore later n
        let alone := s.endBefore once (max m n)
        both.1.rows.map Row.unstamped = alone.1.rows.map Row.unstamped ∧
          (s.endBefore now m).2 + both.2 = alone.2 := by
  intro s
  have timed : s.IsTimed := isTimed_after plain
  refine ⟨timed.endBefore_fst year, ?_, ?_, ?_⟩
  · rw [timed.endBefore_snd year, List.countP_eq_length_filter]
  · intro n yearN order
    exact timed.upcoming?_endBefore year yearN order
  · intro n later once yearN
    constructor
    · exact timed.endBefore_endBefore_rows year yearN now later once
    · exact timed.endBefore_endBefore_snd year yearN now later once

def sampleHour (hour : Fin 24) : Moment :=
  ⟨Date.sample, ⟨hour, 0, 0, 0, hour.isLt, by decide⟩⟩

/-- A history of four events: one in the morning, one that ends before it starts, one in the evening
and a cancelled one. -/
def sampleDay : List StoreCall :=
  let draft (title : String) (start finish : Moment) (status : EventStatus) : EventDraft :=
    ⟨title, none, title, none, ⟨37.5, 127.0⟩, start, finish, none, 2, status⟩
  [.sync (sampleHour 6)
    [draft "시청" (sampleHour 8) (sampleHour 9) .active,
      draft "서울역" (sampleHour 14) (sampleHour 9) .active,
      draft "보신각" (sampleHour 16) (sampleHour 18) .active,
      draft "광화문" (sampleHour 7) (sampleHour 8) .cancelled]]

/-- At ten the morning event has ended. The one that starts at two has not, for all its end, and it
is still upcoming. -/
theorem endBefore_past_sample :
    let s := after sampleDay
    (s.endBefore (sampleHour 10) (sampleHour 10)).1.rows.map (·.status) =
        [.ended, .active, .active, .cancelled] ∧
      (s.endBefore (sampleHour 10) (sampleHour 10)).2 = 1 ∧
      (s.endBefore (sampleHour 10) (sampleHour 10)).1.upcoming? (sampleHour 11) =
        s.upcoming? (sampleHour 11) ∧
      (s.rows.filter (·.isUpcoming (Timestamp.write (sampleHour 11)))).map (·.id) = [2, 3] ∧
      (s.endBefore (sampleHour 10) (sampleHour 10)).2 +
          ((s.endBefore (sampleHour 10) (sampleHour 10)).1.endBefore (sampleHour 15)
            (sampleHour 15)).2 =
        (s.endBefore (sampleHour 15) (max (sampleHour 10) (sampleHour 15))).2 := by
  have past := endBefore_past (show ∀ c ∈ sampleDay, c.IsPlain by decide)
    (show (sampleHour 10).date.HasPlainYear by decide) (sampleHour 10)
  refine ⟨by decide +kernel, by decide +kernel, ?_, by decide +kernel, ?_⟩
  · exact past.2.2.1 (sampleHour 11) (by decide) (by decide)
  · exact (past.2.2.2 (sampleHour 15) (sampleHour 15) (sampleHour 15) (by decide)).2

end EventStore

end RouteAlerts
