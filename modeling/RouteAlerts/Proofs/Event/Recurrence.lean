import RouteAlerts.Proofs.Event.Batch

/-!
Events that arrive again. A draft that was inserted has a row of its own; one that was left out as a
duplicate has none, but there is a row that kept it out. Rows are never removed, and what they keep
out hangs on their place, their title and their start alone, which never change. So a row that keeps
a draft out once does so after every later call (`isKnown_foldl`), and what was stored or left out
as a duplicate is a duplicate from then on (`resync_only_duplicates`).
-/

namespace RouteAlerts

/-- Whether a draft has the title, the place and the start of another one. -/
structure EventDraft.Repeats (e d : EventDraft) : Prop where
  title : e.title = d.title
  place : e.locationName = d.locationName
  start : e.start = d.start

namespace EventStore

def IsKnown (s : EventStore) (d : EventDraft) : Prop := ∃ r ∈ s.rows, r.clashes d = true

variable {s : EventStore} {d e : EventDraft}

theorem fate_eq_duplicate_iff : s.fate d = .duplicate ↔ s.IsKnown d := by
  have due := s.fate_isDue_of_clashes d
  cases fate : s.fate d with
  | duplicate =>
    rw [fate] at due
    exact ⟨fun _ => due, fun _ => rfl⟩
  | inserted | failed =>
    rw [fate] at due
    exact ⟨nofun, fun known => absurd known due.1⟩

/-- What keeps a draft out keeps out every repetition of it. -/
theorem IsKnown.of_repeats (h : s.IsKnown d) (repeats : e.Repeats d) : s.IsKnown e := by
  obtain ⟨r, hr, clash⟩ := h
  refine ⟨r, hr, ?_⟩
  rw [Row.clashes, repeats.title, repeats.place, repeats.start]
  exact clash

/-! ### Rows stay -/

theorem IsKnown.add (h : s.IsKnown d) (now : Moment) (e : EventDraft) :
    (s.add now e).IsKnown d := by
  obtain ⟨r, hr, clash⟩ := h
  refine ⟨r, ?_, clash⟩
  rw [rows_add]
  exact List.mem_append_left _ hr

theorem IsKnown.sync (h : s.IsKnown d) (now : Moment) (batch : List EventDraft) :
    (s.sync now batch).1.IsKnown d :=
  sync_induction (P := (IsKnown · d)) (fun _ e _ known => known.add now e) h

theorem IsKnown.endBefore (h : s.IsKnown d) (now cutoff : Moment) :
    (s.endBefore now cutoff).1.IsKnown d := by
  obtain ⟨r, hr, clash⟩ := h
  obtain ⟨ending, rows, same⟩ := s.exists_rows_endBefore now cutoff
  refine ⟨ending r, ?_, ?_⟩
  · rw [rows]
    exact List.mem_map_of_mem hr
  · rw [same r]
    exact clash

theorem IsKnown.perform (h : s.IsKnown d) (call : StoreCall) : (s.perform call).IsKnown d := by
  cases call with
  | sync now batch => exact h.sync now batch
  | endBefore now cutoff => exact h.endBefore now cutoff

/-- What is kept out once is kept out after any later calls. -/
theorem isKnown_foldl (h : s.IsKnown d) (later : List StoreCall) :
    (later.foldl EventStore.perform s).IsKnown d := by
  induction later generalizing s with
  | nil => exact h
  | cons call later ih => exact ih (h.perform call)

/-! ### What a batch makes known -/

/-- A row keeps out the plain draft that it was made of. -/
theorem clashes_rowOf (plain : d.IsPlain) (id : Nat) (now : Moment) :
    (rowOf id now d).clashes d = true :=
  (clashes_iff ⟨d.start, plain.1, rfl⟩ plain.1).mpr
    ⟨.inl rfl, startDate?_eq (r := rowOf id now d) plain.1 rfl⟩

/-- A draft that did not fail is known after it was decided on: it has a row now, or one kept it
out. -/
theorem isKnown_add (plain : d.IsPlain) (now : Moment) (taken : s.fate d ≠ .failed) :
    (s.add now d).IsKnown d := by
  cases fate : s.fate d with
  | failed => exact absurd fate taken
  | duplicate => exact (fate_eq_duplicate_iff.mp fate).add now d
  | inserted =>
    refine ⟨rowOf (s.lastId + 1) now d, ?_, clashes_rowOf plain _ now⟩
    rw [rows_add, if_pos fate]
    exact List.mem_append_right _ List.mem_cons_self

/-- After a plain batch every draft of it that did not fail is known. -/
theorem isKnown_sync {now : Moment} {batch : List EventDraft} (plain : ∀ d ∈ batch, d.IsPlain)
    {i : Nat} {fate : Fate} (atDraft : batch[i]? = some d)
    (atFate : (s.fates now batch)[i]? = some fate) (taken : fate ≠ .failed) :
    (s.sync now batch).1.IsKnown d := by
  induction batch generalizing s i with
  | nil => cases atDraft
  | cons first batch ih =>
    have later := fun d hd => plain d (List.mem_cons_of_mem _ hd)
    rw [sync_cons]
    cases i with
    | zero =>
      obtain rfl : first = d := by simpa using atDraft
      obtain rfl : s.fate first = fate := by simpa [fates] using atFate
      exact (isKnown_add (plain first List.mem_cons_self) now taken).sync now batch
    | succ i => exact ih later (by simpa using atDraft) (by simpa [fates] using atFate)

/-- A plain batch of which nothing failed is known as a whole. -/
theorem isKnown_of_failed_eq_zero {now : Moment} {batch : List EventDraft}
    (plain : ∀ d ∈ batch, d.IsPlain) (none_failed : (s.sync now batch).2.failed = 0)
    (hd : d ∈ batch) : (s.sync now batch).1.IsKnown d := by
  obtain ⟨i, bound, rfl⟩ := List.mem_iff_getElem.mp hd
  have inFates : i < (s.fates now batch).length := by rwa [length_fates]
  refine isKnown_sync plain (List.getElem?_eq_getElem bound) (List.getElem?_eq_getElem inFates) ?_
  intro failed
  have counted : 0 < (s.fates now batch).count .failed :=
    List.count_pos_iff.mpr (failed ▸ List.getElem_mem inFates)
  rw [sync_snd] at none_failed
  exact absurd none_failed (Nat.ne_of_gt counted)

/-- A batch of known drafts finds nothing but duplicates. -/
theorem sync_eq_self (now : Moment) {batch : List EventDraft} (known : ∀ d ∈ batch, s.IsKnown d) :
    s.sync now batch = (s, ⟨0, batch.length, 0⟩) := by
  have duplicates : s.fates now batch = List.replicate batch.length .duplicate ∧
      (s.sync now batch).1 = s := by
    induction batch with
    | nil => exact ⟨rfl, rfl⟩
    | cons first batch ih =>
      have fate := fate_eq_duplicate_iff.mpr (known first List.mem_cons_self)
      have same : s.add now first = s := add_of_not_inserted now (by simp [fate])
      obtain ⟨rest, left⟩ := ih fun d hd => known d (List.mem_cons_of_mem _ hd)
      rw [sync_cons, fates, same, rest, fate]
      exact ⟨rfl, left⟩
  obtain ⟨all, left⟩ := duplicates
  refine Prod.ext left ?_
  rw [sync_snd, all]
  simp [tally, List.count_replicate]

/-- Whatever was stored, take a plain batch and any later calls. Drafts each of which has the title,
the place and the start of one of the batch that was inserted or left out as a duplicate are all
duplicates then, whatever else they say, and leave the store as it is. -/
theorem resync_only_duplicates (calls later : List StoreCall) (now : Moment)
    {batch : List EventDraft} (plain : ∀ d ∈ batch, d.IsPlain) {again : List EventDraft}
    (repeated : ∀ e ∈ again, ∃ (i : Nat) (d : EventDraft) (fate : Fate),
      batch[i]? = some d ∧ ((after calls).fates now batch)[i]? = some fate ∧
        (fate = .inserted ∨ fate = .duplicate) ∧ e.Repeats d) (moment : Moment) :
    let s := after (calls ++ .sync now batch :: later)
    s.sync moment again = (s, ⟨0, again.length, 0⟩) := by
  intro s
  refine sync_eq_self moment fun e he => ?_
  obtain ⟨i, d, fate, atDraft, atFate, taken, repeats⟩ := repeated e he
  have notFailed : fate ≠ .failed := by
    rcases taken with rfl | rfl <;> simp
  have known := isKnown_foldl (isKnown_sync plain atDraft atFate notFailed) later
  have all : s = later.foldl EventStore.perform ((after calls).sync now batch).1 :=
    List.foldl_append ..
  rw [all]
  exact known.of_repeats repeats

/-- The drafts of the sample batch under coordinates that are no numbers and a severity that the
columns do not allow. -/
def sampleRepeats : List EventDraft :=
  sampleBatch.map fun d => { d with point := ⟨0.0 / 0.0, 127.0⟩, severity := 9 }

/-- The first draft of the sample batch was left out as a duplicate, and the third failed but has
the key of the fourth; so all of them are known, also when their events have ended. -/
theorem resync_only_duplicates_sample :
    let nextDay : Moment := ⟨⟨2025, 8, 16, by decide⟩, ⟨0, 0, 0, 0, by decide⟩⟩
    let calls := sampleHistory ++ .sync sampleMoment sampleBatch ::
      [.endBefore nextDay nextDay, .sync nextDay sampleBatch]
    (after calls).sync sampleMoment sampleRepeats = (after calls, ⟨0, 5, 0⟩) := by
  have fates : (after sampleHistory).fates sampleMoment sampleBatch =
      [.duplicate, .inserted, .failed, .inserted, .duplicate] := by decide +kernel
  refine resync_only_duplicates sampleHistory _ sampleMoment (by decide) ?_ sampleMoment
  rw [fates]
  intro e he
  simp only [sampleRepeats, sampleBatch, List.map_cons, List.map_nil, List.mem_cons,
    List.not_mem_nil, or_false] at he
  rcases he with rfl | rfl | rfl | rfl | rfl
  · exact ⟨0, _, _, rfl, rfl, .inr rfl, ⟨rfl, rfl, rfl⟩⟩
  · exact ⟨1, _, _, rfl, rfl, .inl rfl, ⟨rfl, rfl, rfl⟩⟩
  · exact ⟨3, _, _, rfl, rfl, .inl rfl, ⟨rfl, rfl, rfl⟩⟩
  · exact ⟨3, _, _, rfl, rfl, .inl rfl, ⟨rfl, rfl, rfl⟩⟩
  · exact ⟨4, _, _, rfl, rfl, .inr rfl, ⟨rfl, rfl, rfl⟩⟩

end EventStore

end RouteAlerts
