import RouteAlerts.Event.Store
import RouteAlerts.Proofs.Event.Timestamp

/-!
Histories of the event store. The store starts empty, as the migration makes its table, and changes
only when a batch is stored or past events are marked as ended. Nothing but the check that a draft
makes before it is added keeps two events apart, so that they are apart is an invariant of every
history (`isApart_after`).
-/

namespace RouteAlerts

def EventDraft.IsPlain (d : EventDraft) : Prop := d.start.IsPlain ∧ d.finish.IsPlain

instance (d : EventDraft) : Decidable d.IsPlain := by unfold EventDraft.IsPlain; infer_instance

/-- What a store is asked to do, with the clock at the time. -/
inductive StoreCall where
  | sync (now : Moment) (batch : List EventDraft)
  | endBefore (now cutoff : Moment)

namespace StoreCall

def drafts : StoreCall → List EventDraft
  | .sync _ batch => batch
  | .endBefore _ _ => []

def IsPlain (c : StoreCall) : Prop := ∀ d ∈ c.drafts, d.IsPlain

instance (c : StoreCall) : Decidable c.IsPlain := by unfold StoreCall.IsPlain; infer_instance

end StoreCall

/-- The calendar date of a stored start. -/
def Row.startDate? (r : Row) : Option Date := (Timestamp.read? r.start).map Moment.date

namespace EventStore

def perform (s : EventStore) : StoreCall → EventStore
  | .sync now batch => (s.sync now batch).1
  | .endBefore now cutoff => (s.endBefore now cutoff).1

def after (calls : List StoreCall) : EventStore := calls.foldl perform {}

/-! ### What a call does -/

theorem add_of_inserted {s : EventStore} {d : EventDraft} (now : Moment)
    (h : s.fate d = .inserted) : s.add now d = s.append fun id => rowOf id now d := by
  rw [EventStore.add, h]

/-- A draft that is not inserted leaves the store as it is. -/
theorem add_of_not_inserted {s : EventStore} {d : EventDraft} (now : Moment)
    (h : s.fate d ≠ .inserted) : s.add now d = s := by
  rw [EventStore.add]
  cases fate : s.fate d with
  | inserted => exact absurd fate h
  | duplicate => rfl
  | failed => rfl

theorem rows_add (s : EventStore) (now : Moment) (d : EventDraft) :
    (s.add now d).rows =
      s.rows ++ if s.fate d = .inserted then [rowOf (s.lastId + 1) now d] else [] := by
  by_cases inserted : s.fate d = .inserted
  · rw [add_of_inserted now inserted, if_pos inserted]
    rfl
  · rw [add_of_not_inserted now inserted, if_neg inserted, List.append_nil]

theorem mem_rows_add {s : EventStore} {now : Moment} {d : EventDraft} {r : Row}
    (h : r ∈ (s.add now d).rows) : r ∈ s.rows ∨ r = rowOf (s.lastId + 1) now d := by
  rw [rows_add] at h
  rcases List.mem_append.mp h with old | new
  · exact .inl old
  · split at new
    · exact .inr (List.mem_singleton.mp new)
    · cases new

/-- Ending past events changes nothing of a row but its status and the time of its last change. -/
theorem exists_rows_endBefore (s : EventStore) (now cutoff : Moment) :
    ∃ ending : Row → Row, (s.endBefore now cutoff).1.rows = s.rows.map ending ∧
      ∀ r, ending r =
        { r with status := (ending r).status, updatedAt := (ending r).updatedAt } := by
  refine ⟨_, rfl, fun r => ?_⟩
  split <;> rfl

/-- So what is true of all rows and asks for neither stays true. -/
theorem forall_rows_endBefore {s : EventStore} {P : Row → Prop}
    (steady : ∀ {r status changed}, P r → P { r with status := status, updatedAt := changed })
    (h : ∀ r ∈ s.rows, P r) (now cutoff : Moment) : ∀ r ∈ (s.endBefore now cutoff).1.rows, P r := by
  obtain ⟨ending, rows, same⟩ := s.exists_rows_endBefore now cutoff
  rw [rows, List.forall_mem_map]
  intro r hr
  rw [same r]
  exact steady (h r hr)

theorem pairwise_rows_endBefore {s : EventStore} {R : Row → Row → Prop}
    (steady : ∀ {a b status status' changed changed'}, R a b →
      R { a with status := status, updatedAt := changed }
        { b with status := status', updatedAt := changed' })
    (h : s.rows.Pairwise R) (now cutoff : Moment) :
    (s.endBefore now cutoff).1.rows.Pairwise R := by
  obtain ⟨ending, rows, same⟩ := s.exists_rows_endBefore now cutoff
  rw [rows, List.pairwise_map]
  refine h.imp fun {a b} related => ?_
  rw [same a, same b]
  exact steady related

/-! ### Induction over histories -/

theorem sync_fst (s : EventStore) (now : Moment) (batch : List EventDraft) :
    (s.sync now batch).1 = batch.foldl (fun s d => s.add now d) s :=
  (List.foldl_hom Prod.fst fun _ _ => rfl).symm

/-- What adding one draft keeps, storing a batch keeps. -/
theorem sync_induction {P : EventStore → Prop} {now : Moment} {batch : List EventDraft}
    (add : ∀ s, ∀ d ∈ batch, P s → P (s.add now d)) {s : EventStore} (h : P s) :
    P (s.sync now batch).1 := by
  rw [sync_fst]
  induction batch generalizing s with
  | nil => exact h
  | cons d batch ih =>
    exact ih (fun s e he => add s e (List.mem_cons_of_mem _ he)) (add s d List.mem_cons_self h)

/-- What holds of the empty store and is kept by adding a draft of some kind and by ending past
events holds after every history that brings drafts of that kind only. -/
theorem after_induction {P : EventStore → Prop} {Q : EventDraft → Prop} (empty : P {})
    (add : ∀ s now d, Q d → P s → P (s.add now d))
    (endBefore : ∀ s now cutoff, P s → P (s.endBefore now cutoff).1) {calls : List StoreCall}
    (kind : ∀ c ∈ calls, ∀ d ∈ c.drafts, Q d) : P (after calls) := by
  suffices ∀ s, P s → P (calls.foldl perform s) from this {} empty
  induction calls with
  | nil => exact fun _ h => h
  | cons c calls ih =>
    intro s h
    refine ih (fun c hc => kind c (List.mem_cons_of_mem _ hc)) _ ?_
    have drafts := kind c List.mem_cons_self
    cases c with
    | sync now batch => exact sync_induction (fun s d hd => add s now d (drafts d hd)) h
    | endBefore now cutoff => exact endBefore s now cutoff h

/-! ### Events apart -/

/-- Two stored events that may stand side by side: on one day they share neither place nor title. -/
def Apart (a b : Row) : Prop :=
  a.startDate? = b.startDate? → a.locationName ≠ b.locationName ∧ a.title ≠ b.title

/-- A row whose start is the timestamp of a plain moment. -/
def IsDated (r : Row) : Prop := ∃ m : Moment, m.IsPlain ∧ r.start = Timestamp.write m

/-- The invariant of histories: every event starts at a plain moment, and any two are apart. -/
structure IsApart (s : EventStore) : Prop where
  dated : ∀ r ∈ s.rows, IsDated r
  apart : s.rows.Pairwise Apart

theorem startDate?_eq {r : Row} {m : Moment} (plain : m.IsPlain)
    (start : r.start = Timestamp.write m) : r.startDate? = some m.date := by
  rw [Row.startDate?, start, Timestamp.read?_write plain]
  rfl

/-- A stored event keeps a plain draft out exactly when it shares its place or title and its date.
-/
theorem clashes_iff {r : Row} {d : EventDraft} (dated : IsDated r) (plain : d.start.IsPlain) :
    r.clashes d = true ↔ (r.locationName = d.locationName ∨ r.title = d.title) ∧
      r.startDate? = some d.start.date := by
  obtain ⟨m, mPlain, start⟩ := dated
  rw [startDate?_eq mPlain start, Option.some_inj, ← Date.toDays_injective.eq_iff]
  simp [Row.clashes, Row.startsOn, start, Timestamp.day?_write mPlain, Timestamp.day?_write plain]

/-- Only a draft that no stored event keeps out is inserted. -/
theorem clashes_eq_false_of_inserted {s : EventStore} {d : EventDraft}
    (h : s.fate d = .inserted) : ∀ r ∈ s.rows, r.clashes d = false := by
  unfold EventStore.fate at h
  split at h
  · cases h
  · rename_i free
    simpa using free

theorem IsApart.add {s : EventStore} (h : s.IsApart) (now : Moment) {d : EventDraft}
    (plain : d.IsPlain) : (s.add now d).IsApart := by
  by_cases inserted : s.fate d = .inserted
  · have free := clashes_eq_false_of_inserted inserted
    have dated : IsDated (rowOf (s.lastId + 1) now d) := ⟨d.start, plain.1, rfl⟩
    rw [add_of_inserted now inserted]
    constructor
    · intro r hr
      rcases List.mem_append.mp hr with old | new
      · exact h.dated r old
      · rwa [List.mem_singleton.mp new]
    · refine List.pairwise_append.mpr ⟨h.apart, List.pairwise_singleton _ _, ?_⟩
      intro r hr new hnew sameDay
      obtain rfl := List.mem_singleton.mp hnew
      rw [startDate?_eq (r := rowOf (s.lastId + 1) now d) plain.1 rfl] at sameDay
      have clear := mt (clashes_iff (h.dated r hr) plain.1).mpr (by simp [free r hr])
      exact ⟨fun place => clear ⟨.inl place, sameDay⟩, fun title => clear ⟨.inr title, sameDay⟩⟩
  · rwa [add_of_not_inserted now inserted]

/-- Ending past events touches neither their places and titles nor their starts. -/
theorem IsApart.endBefore {s : EventStore} (h : s.IsApart) (now cutoff : Moment) :
    (s.endBefore now cutoff).1.IsApart := by
  constructor
  · exact forall_rows_endBefore (fun dated => dated) h.dated now cutoff
  · exact pairwise_rows_endBefore (fun apart => apart) h.apart now cutoff

theorem isApart_after {calls : List StoreCall} (plain : ∀ c ∈ calls, c.IsPlain) :
    (after calls).IsApart :=
  after_induction ⟨by simp, .nil⟩ (fun _ now _ plain h => h.add now plain)
    (fun _ now cutoff h => h.endBefore now cutoff) plain

/-- After every plain history each stored event starts on a calendar date, and no two of them,
whatever has become of them, share that date and the place, or that date and the title. -/
theorem one_per_place_and_title_a_day {calls : List StoreCall} (plain : ∀ c ∈ calls, c.IsPlain) :
    (∀ r ∈ (after calls).rows, ∃ date, r.startDate? = some date) ∧
      (after calls).rows.Pairwise fun a b =>
        ¬ (a.locationName = b.locationName ∧ a.startDate? = b.startDate?) ∧
          ¬ (a.title = b.title ∧ a.startDate? = b.startDate?) := by
  have kept := isApart_after plain
  constructor
  · intro r hr
    obtain ⟨m, mPlain, start⟩ := kept.dated r hr
    exact ⟨m.date, startDate?_eq mPlain start⟩
  · refine kept.apart.imp fun {a b} apart => ⟨?_, ?_⟩
    · rintro ⟨place, sameDay⟩
      exact (apart sameDay).1 place
    · rintro ⟨title, sameDay⟩
      exact (apart sameDay).2 title

/-- A history in which an event arrives twice in one batch, once more under another title after it
has ended, and on the day after. -/
def sampleHistory : List StoreCall :=
  let onDay (day hour : Nat) (h : IsDate 2025 8 day ∧ IsTimeOfDay hour 0 0 0) : Moment :=
    ⟨⟨2025, 8, day, h.1⟩, ⟨hour, 0, 0, 0, h.2⟩⟩
  let draft (title place : String) (start : Moment) : EventDraft :=
    ⟨title, none, place, none, ⟨37.5, 127.0⟩, start, start, none, 2, .active⟩
  let morning := onDay 15 9 (by decide)
  let evening := onDay 15 18 (by decide)
  let tomorrow := onDay 16 9 (by decide)
  [.sync morning [draft "시청 집회" "시청" morning, draft "시청 집회" "시청" evening],
    .endBefore evening evening,
    .sync evening [draft "시청 앞 집회" "시청" evening, draft "시청 집회" "시청" tomorrow]]

/-- The sample history is plain and leaves two events, the first of them ended. -/
theorem one_per_place_and_title_a_day_sample :
    (after sampleHistory).rows.map (fun r => (r.status, r.startDate?.map Date.day)) =
        [(.ended, some 15), (.active, some 16)] ∧
      (after sampleHistory).rows.Pairwise fun a b =>
        ¬ (a.locationName = b.locationName ∧ a.startDate? = b.startDate?) ∧
          ¬ (a.title = b.title ∧ a.startDate? = b.startDate?) :=
  ⟨by decide +kernel, (one_per_place_and_title_a_day (by decide)).2⟩

end EventStore

end RouteAlerts
