import RouteAlerts.Proofs.Decimal.Order
import RouteAlerts.Proofs.Event.Batch
import RouteAlerts.Proofs.Event.Expiry
import RouteAlerts.Proofs.Lists

/-!
Events that are shown again. Every row is the stored form of one draft, and nothing happens to it
but that an active event may end (`isLogged_after`). Its timestamps can be read, whatever the clock
said when they were written, so to ask for what is upcoming always succeeds. It shows each active
event that starts later, once, in the order of time and then of arrival, and says of it what was
stored, the fractions of seconds apart (`upcoming_reads_back`).
-/

namespace RouteAlerts

open Decimal

/-! ### Coordinates -/

/-- A number is equal to what is stored for it, which may have lost the sign of zero. -/
theorem storedNumber_beq {x : Float} (number : x.isNaN = false) :
    (EventStore.storedNumber x == x) = true := by
  unfold EventStore.storedNumber
  split
  · rename_i zero
    rw [beq_iff_compare, unpack_zero] at zero
    rw [beq_iff_compare, unpack_zero]
    exact compare_zero_symm zero
  · exact beq_iff_compare.mpr (compare_self number)

/-! ### Order -/

namespace EventStore

theorem comesBefore_iff {a b : Row} :
    comesBefore a b = true ↔ a.start < b.start ∨ a.start = b.start ∧ a.id ≤ b.id := by
  simp [comesBefore]

theorem comesBefore_trans (a b c : Row) (first : comesBefore a b = true)
    (second : comesBefore b c = true) : comesBefore a c = true := by
  rw [comesBefore_iff] at first second ⊢
  rcases first with first | ⟨same, first⟩
  · rcases second with second | ⟨same, -⟩
    · exact .inl (List.lt_trans first second)
    · exact .inl (same ▸ first)
  · rcases second with second | ⟨same', second⟩
    · exact .inl (same ▸ second)
    · exact .inr ⟨same.trans same', Nat.le_trans first second⟩

theorem comesBefore_total (a b : Row) : (comesBefore a b || comesBefore b a) = true := by
  rw [Bool.or_eq_true, comesBefore_iff, comesBefore_iff]
  by_cases less : a.start < b.start
  · exact .inl (.inl less)
  · rcases List.le_iff_lt_or_eq.mp (List.not_lt.mp less) with greater | same
    · exact .inr (.inl greater)
    · rcases Nat.le_total a.id b.id with le | le
      · exact .inl (.inr ⟨same.symm, le⟩)
      · exact .inr (.inr ⟨same, le⟩)

end EventStore

/-! ### What a row keeps -/

/-- A row that stores a plain draft. Since it was written, nothing has changed but the time of the
last change and, where it was active, the status. -/
structure Row.Keeps (r : Row) (d : EventDraft) : Prop where
  stored : ∃ created changed : Moment, r =
    { EventStore.rowOf r.id created d with
      status := r.status
      updatedAt := Timestamp.write changed }
  status : r.status = d.status ∨ d.status = .active ∧ r.status = .ended
  plain : d.IsPlain
  storable : d.IsStorable

/-- An event that says of a row what its draft said: coordinates of the same numbers, the times in
whole seconds, and all else as it was. -/
structure Event.Shows (e : Event) (r : Row) (d : EventDraft) : Prop where
  id : e.id = r.id
  title : e.draft.title = d.title
  description : e.draft.description = d.description
  locationName : e.draft.locationName = d.locationName
  locationAddress : e.draft.locationAddress = d.locationAddress
  lat : (e.draft.point.lat == d.point.lat) = true
  lon : (e.draft.point.lon == d.point.lon) = true
  start : e.draft.start = d.start.truncate
  finish : e.draft.finish = d.finish.truncate
  category : e.draft.category = d.category
  severity : e.draft.severity = d.severity
  status : e.draft.status = d.status

namespace Row.Keeps

variable {r r' : Row} {d d' : EventDraft} {now : Moment}

theorem start (kept : r.Keeps d) : r.start = Timestamp.write d.start := by
  obtain ⟨created, changed, stored⟩ := kept.stored
  rw [stored]
  rfl

/-- What is active now was stored as active. -/
theorem status_of_active (kept : r.Keeps d) (active : r.status = .active) :
    r.status = d.status := by
  rcases kept.status with same | ⟨-, ended⟩
  · exact same
  · rw [active] at ended
    cases ended

/-- An active row can be read, and says what its draft said. -/
theorem exists_event (kept : r.Keeps d) (active : r.status = .active) :
    ∃ e, r.event? = some e ∧ e.Shows r d := by
  obtain ⟨created, changed, stored⟩ := kept.stored
  obtain ⟨lat, lon, -⟩ := kept.storable
  rw [stored]
  simp only [Row.event?, EventStore.rowOf, Timestamp.read?_write_of_any, Option.bind_eq_bind,
    Option.bind_some, Option.some_inj, exists_eq_left']
  constructor
  case lat => exact storedNumber_beq lat
  case lon => exact storedNumber_beq lon
  case status => exact kept.status_of_active active
  all_goals rfl

/-- The store compares texts, which is to compare whole seconds. -/
theorem isUpcoming_iff (kept : r.Keeps d) (year : now.date.HasPlainYear) :
    r.isUpcoming (Timestamp.write now) = true ↔
      r.status = .active ∧ now.truncate < d.start.truncate := by
  simp [Row.isUpcoming, kept.start, Timestamp.write_lt_write_iff year kept.plain.1.year]

/-- A row that comes before another one starts earlier, or at the same second under a smaller
identifier. -/
theorem lt_of_comesBefore (kept : r.Keeps d) (kept' : r'.Keeps d')
    (before : EventStore.comesBefore r r' = true) (apart : r.id ≠ r'.id) :
    d.start.truncate < d'.start.truncate ∨
      d.start.truncate = d'.start.truncate ∧ r.id < r'.id := by
  have year := kept.plain.1.year
  have year' := kept'.plain.1.year
  rw [EventStore.comesBefore_iff, kept.start, kept'.start] at before
  rcases before with earlier | ⟨same, order⟩
  · exact .inl ((Timestamp.write_lt_write_iff year year').mp earlier)
  · have reading := congrArg Timestamp.read? same
    rw [Timestamp.read?_write_of_any, Timestamp.read?_write_of_any] at reading
    exact .inr ⟨Option.some.inj reading, Nat.lt_of_le_of_ne order apart⟩

end Row.Keeps

namespace EventStore

/-! ### What a history inserts -/

/-- The drafts that a call inserts, in the order in which they go in. -/
def insertedBy (s : EventStore) : StoreCall → List EventDraft
  | .sync now batch => insertedOf batch (s.fates now batch)
  | .endBefore _ _ => []

/-- The drafts that a history inserts, in the order in which they go in. -/
def insertions (s : EventStore) : List StoreCall → List EventDraft
  | [] => []
  | c :: calls => s.insertedBy c ++ (s.perform c).insertions calls

/-- The invariant of plain histories: the rows keep the drafts inserted so far, one each, in their
order. -/
def IsLogged (s : EventStore) (drafts : List EventDraft) : Prop :=
  List.Forall₂ Row.Keeps s.rows drafts

namespace IsLogged

variable {s : EventStore} {drafts : List EventDraft}

theorem add (h : s.IsLogged drafts) (now : Moment) {d : EventDraft} (plain : d.IsPlain) :
    (s.add now d).IsLogged (drafts ++ if s.fate d = .inserted then [d] else []) := by
  rw [IsLogged, rows_add]
  refine List.rel_append h ?_
  by_cases inserted : s.fate d = .inserted
  · have due := s.fate_isDue_of_clashes d
    rw [inserted] at due
    rw [if_pos inserted, if_pos inserted]
    exact .cons ⟨⟨now, now, rfl⟩, .inl rfl, plain, due.2⟩ .nil
  · rw [if_neg inserted, if_neg inserted]
    exact .nil

theorem sync (h : s.IsLogged drafts) (now : Moment) {batch : List EventDraft}
    (plain : ∀ d ∈ batch, d.IsPlain) :
    (s.sync now batch).1.IsLogged (drafts ++ insertedOf batch (s.fates now batch)) := by
  induction batch generalizing s drafts with
  | nil => simpa using h
  | cons d batch ih =>
    have first := h.add now (plain d List.mem_cons_self)
    have rest := ih first fun e he => plain e (List.mem_cons_of_mem _ he)
    rwa [sync_cons, fates, insertedOf_cons, ← List.append_assoc]

/-- Ending past events takes no active event for another one, and ends no other. -/
theorem endBefore (h : s.IsLogged drafts) (now cutoff : Moment) :
    (s.endBefore now cutoff).1.IsLogged drafts := by
  have ending : ∀ {r d}, Row.Keeps r d →
      (if r.isOver (Timestamp.write cutoff) = true then
        { r with status := .ended, updatedAt := Timestamp.write now } else r).Keeps d := by
    intro r d kept
    split
    · rename_i past
      have active : r.status = .active := by
        simp only [Row.isOver, Bool.and_eq_true, beq_iff_eq] at past
        exact past.1
      obtain ⟨created, changed, stored⟩ := kept.stored
      refine ⟨⟨created, now, ?_⟩, .inr ⟨?_, rfl⟩, kept.plain, kept.storable⟩
      · rw [stored]
        rfl
      · rw [← kept.status_of_active active, active]
    · exact kept
  exact List.forall₂_map_left_iff.mpr (h.imp fun _ _ => ending)

theorem perform (h : s.IsLogged drafts) {c : StoreCall} (plain : c.IsPlain) :
    (s.perform c).IsLogged (drafts ++ s.insertedBy c) := by
  cases c with
  | sync now batch => exact h.sync now plain
  | endBefore now cutoff =>
    rw [insertedBy, List.append_nil]
    exact h.endBefore now cutoff

end IsLogged

/-- After every plain history the rows keep the drafts that it has inserted. -/
theorem isLogged_after {calls : List StoreCall} (plain : ∀ c ∈ calls, c.IsPlain) :
    (after calls).IsLogged (insertions {} calls) := by
  suffices ∀ s drafts, IsLogged s drafts →
      (calls.foldl EventStore.perform s).IsLogged (drafts ++ s.insertions calls) from
    this {} [] .nil
  induction calls with
  | nil =>
    intro s drafts h
    simpa [insertions] using h
  | cons c calls ih =>
    intro s drafts h
    have first := h.perform (plain c List.mem_cons_self)
    have rest := ih (fun c hc => plain c (List.mem_cons_of_mem _ hc)) _ _ first
    rwa [insertions, ← List.append_assoc]

/-! ### What is shown -/

/-- The rows of a store with the drafts that they keep, those that are upcoming at a moment, the
soonest first. -/
def shown (s : EventStore) (drafts : List EventDraft) (now : Moment) : List (Row × EventDraft) :=
  ((s.rows.zip drafts).filter fun p => p.1.isUpcoming (Timestamp.write now)).mergeSort
    fun p q => comesBefore p.1 q.1

namespace IsLogged

variable {s : EventStore} {drafts : List EventDraft}

theorem map_fst_zip (h : s.IsLogged drafts) : (s.rows.zip drafts).map Prod.fst = s.rows :=
  List.map_fst_zip (Nat.le_of_eq h.length_eq)

theorem map_fst_shown (h : s.IsLogged drafts) (now : Moment) :
    (s.shown drafts now).map Prod.fst = s.upcomingRows now := by
  have sorted := @List.map_mergeSort _ _ (fun p q : Row × EventDraft => comesBefore p.1 q.1)
    comesBefore Prod.fst
    ((s.rows.zip drafts).filter fun p => p.1.isUpcoming (Timestamp.write now))
    fun _ _ _ _ => rfl
  have filtered := @List.filter_map _ _ Prod.fst (·.isUpcoming (Timestamp.write now))
    (s.rows.zip drafts)
  rw [h.map_fst_zip] at filtered
  rw [shown, sorted, upcomingRows, filtered]
  rfl

/-- Rows that are numbered in the order of their arrival leave nothing open in the order in which
they are shown. -/
theorem pairwise_shown (h : s.IsLogged drafts) (numbered : s.IsNumbered) (now : Moment) :
    (s.shown drafts now).Pairwise fun p q => comesBefore p.1 q.1 = true ∧ p.1.id ≠ q.1.id := by
  have sorted : (s.shown drafts now).Pairwise fun p q => comesBefore p.1 q.1 = true :=
    List.pairwise_mergeSort (fun p q r => comesBefore_trans p.1 q.1 r.1)
      (fun p q => comesBefore_total p.1 q.1) _
  have rows : ((s.rows.zip drafts).map Prod.fst).Pairwise fun a b => a.id ≠ b.id := by
    rw [h.map_fst_zip]
    exact numbered.increasing.imp fun less => Nat.ne_of_lt less
  refine sorted.and ?_
  exact ((List.pairwise_map.mp rows).filter _).perm (List.mergeSort_perm _ _).symm Ne.symm

/-- What is shown are the active rows that start later than now in whole seconds. -/
theorem shown_perm (h : s.IsLogged drafts) {now : Moment} (year : now.date.HasPlainYear) :
    (s.shown drafts now).Perm ((s.rows.zip drafts).filter fun (r, d) =>
      r.status = .active ∧ now.truncate < d.start.truncate) := by
  refine (List.mergeSort_perm _ _).trans (.of_eq (List.filter_congr fun p hp => ?_))
  have kept : p.1.Keeps p.2 := List.forall₂_zip h hp
  rw [Bool.eq_iff_iff, kept.isUpcoming_iff year, decide_eq_true_eq]

end IsLogged

/-- After every plain history there is one row for each draft that was inserted, numbered in the
order in which they went in, and what is upcoming can be read. It is one event for each active row
that starts later than the whole seconds of now, saying what the draft of the row said, and the
events are strictly in the order of their starts and then of their numbers. -/
theorem upcoming_reads_back {calls : List StoreCall} (plain : ∀ c ∈ calls, c.IsPlain)
    {now : Moment} (year : now.date.HasPlainYear) :
    let s := after calls
    let drafts := insertions {} calls
    s.rows.length = drafts.length ∧ s.rows.Pairwise (fun a b => a.id < b.id) ∧
      ∃ (events : List Event) (shown : List (Row × EventDraft)),
        s.upcoming? now = some events ∧
        shown.Perm ((s.rows.zip drafts).filter fun (r, d) =>
          r.status = .active ∧ now.truncate < d.start.truncate) ∧
        List.Forall₂ (fun e (r, d) => e.Shows r d) events shown ∧
        events.Pairwise fun a b => a.draft.start < b.draft.start ∨
          a.draft.start = b.draft.start ∧ a.id < b.id := by
  intro s drafts
  have logged : s.IsLogged drafts := isLogged_after plain
  have numbered : s.IsNumbered := isNumbered_after plain
  have perm := logged.shown_perm year
  -- Rows and drafts go side by side, so what holds of a pair in the log holds of a pair shown.
  have active : ∀ p ∈ s.shown drafts now, p.1.Keeps p.2 ∧ p.1.status = .active := by
    intro p hp
    have held := List.mem_filter.mp (perm.mem_iff.mp hp)
    exact ⟨List.forall₂_zip logged held.1, (of_decide_eq_true held.2).1⟩
  obtain ⟨events, read, shows⟩ := @exists_mapM _ _ _ Prod.fst Row.event?
    (fun e p => e.Shows p.1 p.2 ∧ p.1.Keeps p.2) (s.shown drafts now) fun p hp =>
      have ⟨e, reads, shows⟩ := (active p hp).1.exists_event (active p hp).2
      ⟨e, reads, shows, (active p hp).1⟩
  rw [logged.map_fst_shown now] at read
  refine ⟨logged.length_eq, numbered.increasing, events, s.shown drafts now, read, perm, ?_, ?_⟩
  · exact shows.imp fun _ _ both => both.1
  · -- The store sorts texts; on plain years these sort like the moments.
    refine pairwise_of_forall₂ ?_ shows (logged.pairwise_shown numbered now)
    intro a b p q ⟨showsA, keptA⟩ ⟨showsB, keptB⟩ ⟨before, apart⟩
    rw [showsA.start, showsB.start, showsA.id, showsB.id, Int.ofNat_lt]
    exact keptA.lt_of_comesBefore keptB before apart

theorem isTimeOfDay_ten : IsTimeOfDay 10 0 0 0 := by decide

theorem isTimeOfDay_afterTwo : IsTimeOfDay 14 0 0 700000000 := by decide

/-- The sample day with one more event, which starts a fraction of a second after another one does.
At ten what is over is ended. -/
def sampleAfternoon : List StoreCall :=
  let ten : Moment := ⟨Date.sample, ⟨10, 0, 0, 0, isTimeOfDay_ten⟩⟩
  let afterTwo : Moment := ⟨Date.sample, ⟨14, 0, 0, 700000000, isTimeOfDay_afterTwo⟩⟩
  sampleDay ++
    [.sync ten [⟨"종각", none, "종각", none, ⟨37.5, 127.0⟩, afterTwo, afterTwo, none, 2, .active⟩],
      .endBefore ten ten]

/-- At ten three of the five sample events are shown, two of them in the order of their arrival. -/
theorem upcoming_reads_back_sample :
    let s := after sampleAfternoon
    s.rows.map (fun r => (r.id, r.status)) =
        [(1, .ended), (2, .active), (3, .active), (4, .cancelled), (5, .active)] ∧
      ∃ (events : List Event) (shown : List (Row × EventDraft)),
        s.upcoming? (sampleHour 10) = some events ∧
        (shown.map fun (r, _) => r.id).Perm [2, 3, 5] ∧
        List.Forall₂ (fun e (r, d) => e.Shows r d) events shown ∧
        events.Pairwise fun a b => a.draft.start < b.draft.start ∨
          a.draft.start = b.draft.start ∧ a.id < b.id := by
  obtain ⟨-, -, events, shown, read, perm, shows, sorted⟩ :=
    upcoming_reads_back (show ∀ c ∈ sampleAfternoon, c.IsPlain by decide)
      (show (sampleHour 10).date.HasPlainYear by decide)
  refine ⟨by decide +kernel, events, shown, read, ?_, shows, sorted⟩
  exact (perm.map _).trans (.of_eq (by decide +kernel))

end EventStore

end RouteAlerts
