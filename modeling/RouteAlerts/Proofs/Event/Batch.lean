import RouteAlerts.Proofs.Event.History
import Mathlib.Data.List.Forall2

/-!
Batches of drafts. Storing a batch decides on its drafts one after the other and never takes a
decision back: a draft is a duplicate when a stored event, or a draft of the batch that went in
before it, has its place or its title on its day; else it goes in or fails as the columns allow
(`sync_isGreedy`). So it makes no difference whether two batches arrive one after the other or as
one, the times of their arrival apart.
-/

namespace RouteAlerts

/-! ### Who keeps out whom -/

/-- Whether a draft satisfies the constraints of the columns: coordinates that are numbers and a
severity from one to three. -/
def EventDraft.IsStorable (d : EventDraft) : Prop :=
  d.point.lat.isNaN = false ∧ d.point.lon.isNaN = false ∧ 1 ≤ d.severity ∧ d.severity ≤ 3

/-- Whether a draft has the place or the title of another one, on the same day. -/
def EventDraft.Covers (e d : EventDraft) : Prop :=
  (e.locationName = d.locationName ∨ e.title = d.title) ∧ e.start.date = d.start.date

/-- Whether a stored event has the place or the title of a draft, on the same day. -/
def Row.Covers (r : Row) (d : EventDraft) : Prop :=
  (r.locationName = d.locationName ∨ r.title = d.title) ∧ r.startDate? = some d.start.date

/-- Outcomes of batches that arrived one after the other add up. -/
instance : Add SyncOutcome where
  add a b := ⟨a.inserted + b.inserted, a.duplicates + b.duplicates, a.failed + b.failed⟩

namespace EventStore

/-- Which fate a draft is due, given whether its place or title is taken on its day. -/
def Fate.IsDue (taken : Prop) (d : EventDraft) : Fate → Prop
  | .duplicate => taken
  | .failed => ¬ taken ∧ ¬ d.IsStorable
  | .inserted => ¬ taken ∧ d.IsStorable

/-- What becomes of the drafts of a batch, each decided on in the store that those before it have
left. -/
def fates (s : EventStore) (now : Moment) : List EventDraft → List Fate
  | [] => []
  | d :: batch => s.fate d :: (s.add now d).fates now batch

/-- The drafts of a batch that are inserted. -/
def insertedOf (batch : List EventDraft) (fates : List Fate) : List EventDraft :=
  ((batch.zip fates).filter (·.2 = .inserted)).map Prod.fst

/-- Whether a stored event, or a draft inserted among the first `i` of a batch, keeps a draft
out. -/
def IsTaken (rows : List Row) (batch : List EventDraft) (fates : List Fate) (i : Nat)
    (d : EventDraft) : Prop :=
  (∃ r ∈ rows, r.Covers d) ∨ ∃ e ∈ insertedOf (batch.take i) (fates.take i), e.Covers d

/-- Greedy decisions on a batch: every draft has the fate that it is due after those before it. -/
def IsGreedy (rows : List Row) (batch : List EventDraft) (fates : List Fate) : Prop :=
  fates.length = batch.length ∧
    ∀ (i : Nat) (d : EventDraft) (fate : Fate), batch[i]? = some d → fates[i]? = some fate →
      fate.IsDue (IsTaken rows batch fates i d) d

/-- How often each fate occurs. -/
def tally (fates : List Fate) : SyncOutcome :=
  ⟨fates.count .inserted, fates.count .duplicate, fates.count .failed⟩

/-! ### One draft -/

theorem admits_iff {d : EventDraft} : admits d = true ↔ d.IsStorable := by
  simp [admits, Point.isNaN, EventDraft.IsStorable, and_assoc]

/-- The fate of a draft is the one that it is due, given whether it clashes with a stored event. -/
theorem fate_isDue_of_clashes (s : EventStore) (d : EventDraft) :
    (s.fate d).IsDue (∃ r ∈ s.rows, r.clashes d = true) d := by
  rw [← List.any_eq_true]
  unfold EventStore.fate
  split
  · rename_i clash
    exact clash
  · rename_i free
    split
    · rename_i fits
      exact ⟨free, admits_iff.mp fits⟩
    · rename_i misfit
      exact ⟨free, mt admits_iff.mpr misfit⟩

/-- In a store whose events have dates, a plain draft is due its fate by what covers it. -/
theorem fate_isDue {s : EventStore} {d : EventDraft} (dated : ∀ r ∈ s.rows, IsDated r)
    (plain : d.IsPlain) : (s.fate d).IsDue (∃ r ∈ s.rows, r.Covers d) d := by
  have taken : (∃ r ∈ s.rows, r.clashes d = true) ↔ ∃ r ∈ s.rows, r.Covers d :=
    exists_congr fun r => and_congr_right fun hr => clashes_iff (dated r hr) plain.1
  rw [← propext taken]
  exact s.fate_isDue_of_clashes d

/-- An inserted draft keeps out what it covers, and nothing else is new. -/
theorem exists_covers_add {s : EventStore} {now : Moment} {d e : EventDraft} (plain : d.IsPlain) :
    (∃ r ∈ (s.add now d).rows, r.Covers e) ↔
      (∃ r ∈ s.rows, r.Covers e) ∨ s.fate d = .inserted ∧ d.Covers e := by
  have own : (rowOf (s.lastId + 1) now d).Covers e ↔ d.Covers e := by
    rw [Row.Covers, startDate?_eq (r := rowOf (s.lastId + 1) now d) plain.1 rfl, Option.some_inj]
    rfl
  rw [rows_add]
  by_cases inserted : s.fate d = .inserted
  · simp [inserted, or_and_right, exists_or, own]
  · simp [inserted]

/-! ### Many drafts -/

@[simp] theorem sync_nil (s : EventStore) (now : Moment) : (s.sync now []).1 = s := rfl

@[simp] theorem sync_cons (s : EventStore) (now : Moment) (d : EventDraft)
    (batch : List EventDraft) :
    (s.sync now (d :: batch)).1 = ((s.add now d).sync now batch).1 := by
  rw [sync_fst, sync_fst, List.foldl_cons]

theorem sync_append (s : EventStore) (now : Moment) (xs ys : List EventDraft) :
    (s.sync now (xs ++ ys)).1 = ((s.sync now xs).1.sync now ys).1 := by
  rw [sync_fst, sync_fst, sync_fst, List.foldl_append]

@[simp] theorem insertedOf_nil (fates : List Fate) : insertedOf [] fates = [] := rfl

theorem insertedOf_cons (d : EventDraft) (batch : List EventDraft) (fate : Fate)
    (fates : List Fate) :
    insertedOf (d :: batch) (fate :: fates) =
      (if fate = .inserted then [d] else []) ++ insertedOf batch fates := by
  by_cases inserted : fate = .inserted <;> simp [insertedOf, inserted]

@[simp] theorem length_fates (s : EventStore) (now : Moment) (batch : List EventDraft) :
    (s.fates now batch).length = batch.length := by
  induction batch generalizing s with
  | nil => rfl
  | cons d batch ih => rw [fates, List.length_cons, ih, List.length_cons]

theorem fates_append (s : EventStore) (now : Moment) (xs ys : List EventDraft) :
    s.fates now (xs ++ ys) = s.fates now xs ++ (s.sync now xs).1.fates now ys := by
  induction xs generalizing s with
  | nil => rfl
  | cons d xs ih => rw [List.cons_append, fates, fates, ih, sync_cons, List.cons_append]

/-- Every draft of a batch has the fate that it is due, given whether something keeps it out. -/
theorem exists_isDue_of_fates {s : EventStore} {now : Moment} {batch : List EventDraft} {i : Nat}
    {d : EventDraft} {fate : Fate} (atDraft : batch[i]? = some d)
    (atFate : (s.fates now batch)[i]? = some fate) : ∃ taken, fate.IsDue taken d := by
  induction batch generalizing s i with
  | nil => cases atDraft
  | cons first batch ih =>
    cases i with
    | zero =>
      obtain rfl : first = d := by simpa using atDraft
      obtain rfl : s.fate first = fate := by simpa [fates] using atFate
      exact ⟨_, s.fate_isDue_of_clashes first⟩
    | succ i => exact ih (by simpa using atDraft) (by simpa [fates] using atFate)

/-- The fates of a plain batch are greedy decisions. -/
theorem isGreedy_fates {s : EventStore} (apart : s.IsApart) (now : Moment)
    {batch : List EventDraft} (plain : ∀ d ∈ batch, d.IsPlain) :
    IsGreedy s.rows batch (s.fates now batch) := by
  refine ⟨length_fates s now batch, ?_⟩
  induction batch generalizing s with
  | nil =>
    intro i d fate atDraft
    cases atDraft
  | cons first batch ih =>
    have firstPlain := plain first List.mem_cons_self
    have later := ih (apart.add now firstPlain) fun d hd => plain d (List.mem_cons_of_mem _ hd)
    intro i d fate atDraft atFate
    cases i with
    | zero =>
      obtain rfl : first = d := by simpa using atDraft
      obtain rfl : s.fate first = fate := by simpa [fates] using atFate
      simpa [IsTaken] using fate_isDue apart.dated firstPlain
    | succ i =>
      have due := later i d fate (by simpa using atDraft) (by simpa [fates] using atFate)
      -- What the first draft takes is seen in the store by the later ones.
      have same : IsTaken (s.add now first).rows batch ((s.add now first).fates now batch) i d ↔
          IsTaken s.rows (first :: batch) (s.fates now (first :: batch)) (i + 1) d := by
        rw [IsTaken, IsTaken, exists_covers_add firstPlain, fates, List.take_succ_cons,
          List.take_succ_cons, insertedOf_cons]
        by_cases inserted : s.fate first = .inserted
        · simp [inserted, or_assoc]
        · simp [inserted]
      rwa [same] at due

theorem Fate.IsDue.unique {taken : Prop} {d : EventDraft} {a b : Fate} (ha : a.IsDue taken d)
    (hb : b.IsDue taken d) : a = b := by
  cases a <;> cases b <;> simp_all [IsDue]

/-- There is one way to decide greedily. -/
theorem IsGreedy.unique {rows : List Row} {batch : List EventDraft} {left right : List Fate}
    (hl : IsGreedy rows batch left) (hr : IsGreedy rows batch right) : left = right := by
  -- What is taken when a draft arrives depends on the fates before it, so compare them up to
  -- each place.
  have prefixes : ∀ i ≤ batch.length, left.take i = right.take i := by
    intro i
    induction i with
    | zero => simp
    | succ i ih =>
      intro bound
      have before := ih (by omega)
      have inLeft : i < left.length := hl.1 ▸ bound
      have inRight : i < right.length := hr.1 ▸ bound
      have atLeft := List.getElem?_eq_getElem inLeft
      have atRight := List.getElem?_eq_getElem inRight
      have atDraft := List.getElem?_eq_getElem (Nat.lt_of_succ_le bound)
      have due := hl.2 i _ _ atDraft atLeft
      have due' := hr.2 i _ _ atDraft atRight
      rw [IsTaken, ← before] at due'
      rw [List.take_add_one, List.take_add_one, before, atLeft, atRight, due.unique due']
  have all := prefixes batch.length (Nat.le_refl _)
  rwa [← hl.1, List.take_length, hl.1, ← hr.1, List.take_length] at all

/-! ### Outcomes -/

theorem add_eq (a b : SyncOutcome) :
    a + b = ⟨a.inserted + b.inserted, a.duplicates + b.duplicates, a.failed + b.failed⟩ := rfl

theorem tally_cons (fate : Fate) (fates : List Fate) :
    tally (fate :: fates) = (tally fates).count fate := by
  cases fate <;> simp [tally, SyncOutcome.count]

theorem tally_append (xs ys : List Fate) : tally (xs ++ ys) = tally xs + tally ys := by
  simp [tally, add_eq]

theorem foldl_count (outcome : SyncOutcome) (fates : List Fate) :
    fates.foldl SyncOutcome.count outcome = outcome + tally fates := by
  induction fates generalizing outcome with
  | nil => rfl
  | cons fate fates ih =>
    rw [List.foldl_cons, ih, tally_cons]
    cases fate <;> simp [SyncOutcome.count, add_eq] <;> omega

/-- The outcome of a batch counts the fates of its drafts. -/
theorem sync_snd (s : EventStore) (now : Moment) (batch : List EventDraft) :
    (s.sync now batch).2 = tally (s.fates now batch) := by
  have counted : ∀ (s : EventStore) (outcome : SyncOutcome),
      (batch.foldl (fun held d => (held.1.add now d, held.2.count (held.1.fate d)))
        (s, outcome)).2 = (s.fates now batch).foldl SyncOutcome.count outcome := by
    induction batch with
    | nil => exact fun _ _ => rfl
    | cons d batch ih => exact fun s outcome => ih (s.add now d) (outcome.count (s.fate d))
  refine (counted s {}).trans ?_
  rw [foldl_count, add_eq]
  simp

/-- Every draft is counted once. -/
theorem tally_total (fates : List Fate) :
    (tally fates).inserted + (tally fates).duplicates + (tally fates).failed = fates.length := by
  induction fates with
  | nil => rfl
  | cons fate fates ih =>
    rw [tally_cons, List.length_cons]
    cases fate <;> simp only [SyncOutcome.count] <;> omega

/-! ### Rows -/

/-- A batch adds the stored forms of its inserted drafts at the end, in their order, and changes no
row that is there. -/
theorem exists_rows_sync (s : EventStore) (now : Moment) (batch : List EventDraft) :
    ∃ new, (s.sync now batch).1.rows = s.rows ++ new ∧
      List.Forall₂ (fun r d => r = rowOf r.id now d) new
        (insertedOf batch (s.fates now batch)) := by
  induction batch generalizing s with
  | nil => exact ⟨[], by simp, .nil⟩
  | cons d batch ih =>
    obtain ⟨new, rows, stored⟩ := ih (s.add now d)
    rw [sync_cons, rows, rows_add, fates, insertedOf_cons]
    by_cases inserted : s.fate d = .inserted
    · simp only [inserted, if_true]
      exact ⟨rowOf (s.lastId + 1) now d :: new, by simp, .cons rfl stored⟩
    · simp only [inserted, if_false]
      exact ⟨new, by simp, stored⟩

/-- Rows stand in the order of their identifiers, none of which is above the last that was given. -/
structure IsNumbered (s : EventStore) : Prop where
  increasing : s.rows.Pairwise fun a b => a.id < b.id
  bounded : ∀ r ∈ s.rows, r.id ≤ s.lastId

theorem IsNumbered.add {s : EventStore} (h : s.IsNumbered) (now : Moment) (d : EventDraft) :
    (s.add now d).IsNumbered := by
  by_cases inserted : s.fate d = .inserted
  · rw [add_of_inserted now inserted]
    constructor
    · refine List.pairwise_append.mpr ⟨h.increasing, List.pairwise_singleton _ _, ?_⟩
      intro r hr new hnew
      rw [List.mem_singleton.mp hnew]
      exact Nat.lt_succ_of_le (h.bounded r hr)
    · intro r hr
      rcases List.mem_append.mp hr with old | new
      · exact Nat.le_succ_of_le (h.bounded r old)
      · rw [List.mem_singleton.mp new]
        exact Nat.le_refl _
  · rwa [add_of_not_inserted now inserted]

theorem IsNumbered.endBefore {s : EventStore} (h : s.IsNumbered) (now cutoff : Moment) :
    (s.endBefore now cutoff).1.IsNumbered := by
  constructor
  · exact pairwise_rows_endBefore (fun less => less) h.increasing now cutoff
  · exact forall_rows_endBefore (fun bounded => bounded) h.bounded now cutoff

theorem isNumbered_after {calls : List StoreCall} (plain : ∀ c ∈ calls, c.IsPlain) :
    (after calls).IsNumbered :=
  after_induction ⟨.nil, by simp⟩ (fun _ now d _ h => h.add now d)
    (fun _ now cutoff h => h.endBefore now cutoff) plain

/-! ### Batches put together -/

/-- Two rows that are the same event, stored at different times. -/
def IsSameEvent (a b : Row) : Prop :=
  a = { b with createdAt := a.createdAt, updatedAt := a.updatedAt }

/-- Two stores that hold the same events in the same order. -/
structure IsAlike (s t : EventStore) : Prop where
  rows : List.Forall₂ IsSameEvent s.rows t.rows
  lastId : s.lastId = t.lastId

theorem IsAlike.refl (s : EventStore) : s.IsAlike s :=
  ⟨List.forall₂_same.mpr fun _ _ => rfl, rfl⟩

theorem IsSameEvent.clashes {a b : Row} (h : IsSameEvent a b) (d : EventDraft) :
    a.clashes d = b.clashes d := by
  rw [h]
  rfl

/-- Times of arrival keep nothing out. -/
theorem IsAlike.fate {s t : EventStore} (h : s.IsAlike t) (d : EventDraft) :
    s.fate d = t.fate d := by
  have any : s.rows.any (·.clashes d) = t.rows.any (·.clashes d) := by
    have rows := h.rows
    generalize s.rows = left at rows
    generalize t.rows = right at rows
    induction rows with
    | nil => rfl
    | cons same _ ih => rw [List.any_cons, List.any_cons, same.clashes, ih]
  rw [EventStore.fate, EventStore.fate, any]

theorem IsAlike.add {s t : EventStore} (h : s.IsAlike t) (now now' : Moment) (d : EventDraft) :
    (s.add now d).IsAlike (t.add now' d) := by
  have fate := h.fate d
  by_cases inserted : s.fate d = .inserted
  · rw [add_of_inserted now inserted, add_of_inserted now' (fate ▸ inserted)]
    refine ⟨List.rel_append h.rows (.cons ?_ .nil), congrArg (· + 1) h.lastId⟩
    rw [h.lastId]
    rfl
  · rwa [add_of_not_inserted now inserted, add_of_not_inserted now' (fate ▸ inserted)]

theorem IsAlike.sync {s t : EventStore} (h : s.IsAlike t) (now now' : Moment)
    (batch : List EventDraft) :
    (s.sync now batch).1.IsAlike (t.sync now' batch).1 ∧
      s.fates now batch = t.fates now' batch := by
  induction batch generalizing s t with
  | nil => exact ⟨h, rfl⟩
  | cons d batch ih =>
    obtain ⟨alike, same⟩ := ih (h.add now now' d)
    rw [sync_cons, sync_cons, fates, fates, same, h.fate d]
    exact ⟨alike, rfl⟩

/-- Two batches that arrive one after the other leave what they leave as one. -/
theorem sync_append_alike (s : EventStore) (now first second : Moment) (xs ys : List EventDraft) :
    (s.sync now (xs ++ ys)).1.IsAlike ((s.sync first xs).1.sync second ys).1 ∧
      (s.sync now (xs ++ ys)).2 = (s.sync first xs).2 + ((s.sync first xs).1.sync second ys).2 := by
  obtain ⟨front, frontFates⟩ := (IsAlike.refl s).sync now first xs
  obtain ⟨back, backFates⟩ := front.sync now second ys
  refine ⟨?_, ?_⟩
  · rw [sync_append]
    exact back
  · rw [sync_snd, sync_snd, sync_snd, fates_append, tally_append, frontFates, backFates]

/-- After every plain history a plain batch is decided on greedily, draft by draft. Its outcome
counts the decisions, each draft once. The store grows at its end by the inserted drafts in their
order, under identifiers above all earlier ones, and nothing else in it changes. However the batch
is cut in two, the halves leave the same events when they arrive one after the other, and their
outcomes add up. -/
theorem sync_isGreedy {calls : List StoreCall} (plainCalls : ∀ c ∈ calls, c.IsPlain)
    {batch : List EventDraft} (plain : ∀ d ∈ batch, d.IsPlain) (now : Moment) :
    let s := after calls
    let fates := s.fates now batch
    let result := s.sync now batch
    IsGreedy s.rows batch fates ∧
      (∀ others, IsGreedy s.rows batch others → others = fates) ∧
      result.2 = tally fates ∧
      result.2.inserted + result.2.duplicates + result.2.failed = batch.length ∧
      (∃ new, result.1.rows = s.rows ++ new ∧
        List.Forall₂ (fun r d => r = rowOf r.id now d) new (insertedOf batch fates)) ∧
      (result.1.rows.Pairwise fun a b => a.id < b.id) ∧
      ∀ xs ys, batch = xs ++ ys → ∀ first second,
        let front := s.sync first xs
        let back := front.1.sync second ys
        List.Forall₂ IsSameEvent result.1.rows back.1.rows ∧ result.2 = front.2 + back.2 := by
  intro s fates result
  have counted : result.2 = tally fates := sync_snd s now batch
  have greedy : IsGreedy s.rows batch fates := isGreedy_fates (isApart_after plainCalls) now plain
  refine ⟨greedy, fun others h => h.unique greedy, counted, ?_, exists_rows_sync s now batch, ?_,
    ?_⟩
  · rw [counted, tally_total, length_fates]
  · exact (sync_induction (fun _ d _ h => h.add now d) (isNumbered_after plainCalls)).increasing
  · -- The halves arrive at other times, so the rows agree but for when they were stored.
    rintro xs ys rfl first second front back
    obtain ⟨alike, total⟩ := sync_append_alike s now first second xs ys
    exact ⟨alike.rows, total⟩

def sampleMoment : Moment := ⟨Date.sample, ⟨19, 30, 0, 0, by decide⟩⟩

/-- A batch for the sample history. The title of its first draft is taken, so that the place of that
draft stays free for the second; the third fails and leaves its own to the fourth. -/
def sampleBatch : List EventDraft :=
  let draft (title place : String) (severity : Nat) : EventDraft :=
    ⟨title, none, place, none, ⟨37.5, 127.0⟩, sampleMoment, sampleMoment, none, severity, .active⟩
  [draft "시청 집회" "서울역" 2, draft "서울역 집회" "서울역" 2, draft "광화문 집회" "광화문" 9,
    draft "광화문 집회" "광화문" 3, draft "광화문 행진" "서울역" 2]

theorem sync_isGreedy_sample :
    (after sampleHistory).fates sampleMoment sampleBatch =
        [.duplicate, .inserted, .failed, .inserted, .duplicate] ∧
      IsGreedy (after sampleHistory).rows sampleBatch
        ((after sampleHistory).fates sampleMoment sampleBatch) ∧
      ((after sampleHistory).sync sampleMoment sampleBatch).2 = ⟨2, 2, 1⟩ := by
  obtain ⟨greedy, -, counted, -⟩ :=
    @sync_isGreedy sampleHistory (by decide) sampleBatch (by decide) sampleMoment
  have fates : (after sampleHistory).fates sampleMoment sampleBatch =
      [.duplicate, .inserted, .failed, .inserted, .duplicate] := by decide +kernel
  refine ⟨fates, greedy, ?_⟩
  rw [counted, fates]
  rfl

end EventStore

end RouteAlerts
