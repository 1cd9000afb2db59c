import RouteAlerts.Proofs.Event.Batch
import RouteAlerts.Proofs.Run.Offers
import RouteAlerts.Run.Basic

/-!
The accounts of a run. It leaves behind what the events make of the store that it has drafted until
its time is up (`run_eq_drafted`). A run that is in time drafts all its announcements (`run_eq`):
what it stores then hangs on those that were read, on nothing that failed, and its counts agree with
each other and with what is stored.
-/

namespace RouteAlerts

open Web

/-- A database counts every draft once, also without a table. -/
theorem Database.sync_total (db : Database) (now : Moment) (batch : List EventDraft) :
    (db.sync now batch).2.inserted + (db.sync now batch).2.duplicates +
      (db.sync now batch).2.failed = batch.length := by
  unfold Database.sync
  cases db.table with
  | none => simp
  | some store =>
    change (store.sync now batch).2.inserted + (store.sync now batch).2.duplicates +
      (store.sync now batch).2.failed = batch.length
    rw [EventStore.sync_snd, EventStore.tally_total, EventStore.length_fates]

theorem Database.sync_nil (db : Database) (now : Moment) : (db.sync now []).1 = db := by
  obtain ⟨table⟩ := db
  cases table <;> rfl

/-- The counts of a summary agree with what feeds offered, with the announcements that were merged
and with the places where they were found. -/
structure RunSummary.IsAccount (summary : RunSummary) (offers : List (Source × Feed.Offer))
    (merged : List Announcement) (places : List LocatedPlace) : Prop where
  sources : (summary.sources.map fun s => (s.source, s.rows, s.error.isSome)) =
    offers.map fun (source, o) => (source, (o.announced?.getD []).length, o.isFailure)
  merged : summary.mergedRows = merged.length
  built : summary.builtEvents = summary.mergedRows
  stored : summary.outcome.inserted + summary.outcome.duplicates + summary.outcome.failed =
    summary.builtEvents
  fallbacks : summary.fallbacks = places.countP (·.origin == .fallback)
  status : summary.status =
    if (∃ s ∈ summary.sources, s.error.isSome) ∨ 0 < summary.outcome.failed then .warning
    else .success

namespace RunSetup

/-- Where announcements take place, each asked for after those before it. -/
def locateAll (setup : RunSetup) (announcements : List Announcement) :
    StateM World (List LocatedPlace) :=
  announcements.mapM setup.locate

def draftsAt (setup : RunSetup) (announcements : List Announcement)
    (places : List LocatedPlace) : List EventDraft :=
  List.zipWith (fun a place => a.draft setup.settings.district place.point) announcements places

theorem length_locateAll (setup : RunSetup) (announcements : List Announcement) (world : World) :
    ((setup.locateAll announcements).run world).1.length = announcements.length := by
  induction announcements generalizing world with
  | nil => rfl
  | cons a rest ih =>
    rw [locateAll, List.mapM_cons]
    exact congrArg (· + 1) (ih _)

/-- While there is time, every announcement is located and drafted. -/
theorem draftAll_eq (setup : RunSetup) {late : Nat → Bool} (done : Nat)
    (announcements : List Announcement)
    (inTime : ∀ n ≤ announcements.length, late (done + n) = false) :
    setup.draftAll late done announcements =
      (fun places => ⟨setup.draftsAt announcements places,
        places.countP (·.origin == .fallback), false⟩) <$> setup.locateAll announcements := by
  have now : late done = false := inTime 0 (Nat.zero_le _)
  induction announcements generalizing done with
  | nil => simp [draftAll, locateAll, now, Drafted.nothing, draftsAt]
  | cons a rest ih =>
    have later : ∀ n ≤ rest.length, late (done + 1 + n) = false := by
      intro n h
      rw [Nat.add_assoc, Nat.add_comm 1]
      exact inTime (n + 1) (Nat.succ_le_succ h)
    simp only [draftAll, now, ih (done + 1) later (later 0 (Nat.zero_le _)), locateAll,
      List.mapM_cons, map_eq_pure_bind, bind_assoc, pure_bind]
    rw [if_neg Bool.false_ne_true]
    refine bind_congr fun place => bind_congr fun places => ?_
    simp [Drafted.add, draftsAt, List.countP_cons]

/-- Whether it is late is asked again before every announcement. -/
theorem run_draftAll_cons (setup : RunSetup) (late : Nat → Bool) (done : Nat) (a : Announcement)
    (rest : List Announcement) (world : World) :
    ((setup.draftAll late done (a :: rest)).run world).1 =
      if late done then Drafted.nothing true
      else
        let place := (setup.locate a).run world
        (((setup.draftAll late (done + 1) rest).run place.2).1.add
          (a.draft setup.settings.district place.1.point) place.1.origin) := by
  rw [draftAll]
  split <;> rfl

/-- Every event is drafted of one of the announcements. -/
theorem exists_of_mem_draftAll {setup : RunSetup} {late : Nat → Bool} {done : Nat}
    {announcements : List Announcement} {world : World} {d : EventDraft}
    (h : d ∈ ((setup.draftAll late done announcements).run world).1.drafts) :
    ∃ a ∈ announcements, ∃ p, d = a.draft setup.settings.district p := by
  induction announcements generalizing done world with
  | nil => exact absurd h List.not_mem_nil
  | cons a rest ih =>
    rw [run_draftAll_cons] at h
    split at h
    · exact absurd h List.not_mem_nil
    · rcases List.mem_cons.mp h with rfl | later
      · exact ⟨a, List.mem_cons_self, _, rfl⟩
      · obtain ⟨b, hb, drafted⟩ := ih later
        exact ⟨b, List.mem_cons_of_mem _ hb, drafted⟩

/-- When the time was not up in the end, it never was. -/
theorem inTime_of_draftAll {setup : RunSetup} {late : Nat → Bool} {done : Nat}
    {announcements : List Announcement} {world : World}
    (h : ((setup.draftAll late done announcements).run world).1.timeUp = false) :
    ∀ n ≤ announcements.length, late (done + n) = false := by
  induction announcements generalizing done world with
  | nil =>
    intro n bound
    rw [Nat.le_zero.mp bound]
    exact h
  | cons a rest ih =>
    rw [run_draftAll_cons] at h
    split at h
    · cases h
    · rename_i now
      intro n bound
      cases n with
      | zero => simpa using now
      | succ n =>
        have later := ih h n (Nat.le_of_succ_le_succ bound)
        rwa [Nat.add_assoc, Nat.add_comm 1 n] at later

/-- The setup with feeds that have nothing to offer instead of failing. -/
def hushed (setup : RunSetup) : RunSetup :=
  { setup with feeds := setup.feeds.map (Feed.hushed setup.settings.keepsBulletins) }

section

variable (setup : RunSetup) (mark : RunMark) (holdings : Holdings) (world : World)

/-- The offers of a run's feeds, in their order, with what is left of archive and web. -/
def collected : (List (Source × Feed.Offer) × Archive) × World :=
  (Feed.offerAll setup.settings.keepsBulletins setup.settings.client mark.startedAt setup.feeds
    holdings.archive).run world

/-- What the feeds of a run have to offer, in their order. -/
def offers : List (Source × Feed.Offer) := (setup.collected mark holdings world).1.1

/-- The announcements of a run: those that were read, merged in the order of the feeds. -/
def merged : List Announcement :=
  Announcement.merge ((setup.offers mark holdings world).filterMap (·.2.announced?))

def places : List LocatedPlace :=
  ((setup.locateAll (setup.merged mark holdings world)).run
    (setup.collected mark holdings world).2).1

def drafts : List EventDraft :=
  setup.draftsAt (setup.merged mark holdings world) (setup.places mark holdings world)

def summary : RunSummary :=
  .of ((setup.offers mark holdings world).map fun (source, o) => (o.contribution source).report)
    (setup.merged mark holdings world)
    ⟨setup.drafts mark holdings world,
      (setup.places mark holdings world).countP (·.origin == .fallback), false⟩
    (holdings.database.sync mark.startedAt (setup.drafts mark holdings world)).2

theorem length_drafts :
    (setup.drafts mark holdings world).length = (setup.merged mark holdings world).length := by
  rw [drafts, draftsAt, List.length_zipWith, places, length_locateAll, Nat.min_self]

theorem isEmpty_drafts :
    (setup.drafts mark holdings world).isEmpty = (setup.merged mark holdings world).isEmpty := by
  rw [Bool.eq_iff_iff, List.isEmpty_iff_length_eq_zero, List.isEmpty_iff_length_eq_zero,
    length_drafts]

/-! ### Without failures -/

theorem collected_hushed :
    setup.hushed.collected mark holdings world =
      (((setup.offers mark holdings world).map fun (source, o) => (source, o.hushed),
        (setup.collected mark holdings world).1.2), (setup.collected mark holdings world).2) := by
  rw [collected, hushed, Feed.offerAll_hushed]
  rfl

theorem merged_hushed :
    setup.hushed.merged mark holdings world = setup.merged mark holdings world := by
  rw [merged, offers, collected_hushed, merged, List.filterMap_map]
  simp only [Function.comp_def, Feed.Offer.announced?_hushed]

theorem drafts_hushed :
    setup.hushed.drafts mark holdings world = setup.drafts mark holdings world := by
  rw [drafts, places, merged_hushed, collected_hushed]
  rfl

/-! ### Any run -/

/-- The events that a run drafts, which are fewer than its announcements when the time is up. -/
def drafted : Drafted :=
  ((setup.draftAll (setup.isLate mark) 0 (setup.merged mark holdings world)).run
    (setup.collected mark holdings world).2).1

/-- The summary of a run that drafts some events. -/
def report : RunSummary :=
  .of ((setup.offers mark holdings world).map fun (source, o) => (o.contribution source).report)
    (setup.merged mark holdings world) (setup.drafted mark holdings world)
    (holdings.database.sync mark.startedAt (setup.drafted mark holdings world).drafts).2

variable {setup mark holdings world}

theorem run_eq_drafted :
    ((setup.run mark holdings).run world).1 =
      if (setup.merged mark holdings world).isEmpty then
        (.error .noEvents, { holdings with archive := (setup.collected mark holdings world).1.2 })
      else if (setup.drafted mark holdings world).drafts.isEmpty then
        (.error (.timeout setup.settings.runTimeout),
          { holdings with archive := (setup.collected mark holdings world).1.2 })
      else
        (.ok (setup.report mark holdings world),
          { archive := (setup.collected mark holdings world).1.2
            database := (holdings.database.sync mark.startedAt
              (setup.drafted mark holdings world).drafts).1
            records := holdings.records ++ [{
              id := mark.id
              startedAt := mark.startedAt
              finishedAt := mark.finishedAt
              summary := setup.report mark holdings world
              directory := mark.id.directory setup.settings.reportsRoot }] }) := by
  rw [RunSetup.run, Feed.collectAll_eq]
  simp only [map_eq_pure_bind, bind_assoc, pure_bind, List.map_map, Function.comp_def,
    Feed.Offer.merge_contributions]
  rw [StateT.run_bind]
  -- What remains is to draft, in the world that the feeds have left.
  change ((if (setup.merged mark holdings world).isEmpty then _
    else setup.draftAll (setup.isLate mark) 0 (setup.merged mark holdings world) >>= _ :
      StateM World _).run (setup.collected mark holdings world).2).1 = _
  by_cases none_merged : (setup.merged mark holdings world).isEmpty = true
  · rw [if_pos none_merged, if_pos none_merged]
    rfl
  · rw [if_neg none_merged, if_neg none_merged, StateT.run_bind]
    change ((if (setup.drafted mark holdings world).drafts.isEmpty then _ else _ :
      StateM World _).run _).1 = _
    by_cases none_drafted : (setup.drafted mark holdings world).drafts.isEmpty = true
    · rw [if_pos none_drafted, if_pos none_drafted]
      rfl
    · rw [if_neg none_drafted, if_neg none_drafted]
      rfl

theorem exists_of_mem_drafted {d : EventDraft}
    (h : d ∈ (setup.drafted mark holdings world).drafts) :
    ∃ a ∈ setup.merged mark holdings world, ∃ p, d = a.draft setup.settings.district p :=
  exists_of_mem_draftAll h

/-- What a run leaves in the database is what its events leave there. -/
theorem database_run_drafted :
    ((setup.run mark holdings).run world).1.2.database =
      (holdings.database.sync mark.startedAt (setup.drafted mark holdings world).drafts).1 := by
  rw [run_eq_drafted]
  by_cases none_merged : (setup.merged mark holdings world).isEmpty = true
  · have none_drafted : (setup.drafted mark holdings world).drafts = [] := by
      refine List.eq_nil_iff_forall_not_mem.mpr fun d hd => ?_
      obtain ⟨a, ha, -⟩ := exists_of_mem_drafted hd
      rw [List.isEmpty_iff.mp none_merged] at ha
      exact absurd ha List.not_mem_nil
    rw [if_pos none_merged, none_drafted, Database.sync_nil]
  · rw [if_neg none_merged]
    split
    · rename_i none_drafted
      rw [List.isEmpty_iff.mp none_drafted, Database.sync_nil]
    · rfl

/-! ### In time -/

theorem inTime_of_drafted (h : (setup.drafted mark holdings world).timeUp = false) :
    ∀ done ≤ (setup.merged mark holdings world).length, setup.isLate mark done = false := by
  simpa using inTime_of_draftAll h

/-- A run that is in time drafts all its announcements. -/
theorem drafted_eq
    (inTime : ∀ done ≤ (setup.merged mark holdings world).length, setup.isLate mark done = false) :
    setup.drafted mark holdings world = ⟨setup.drafts mark holdings world,
      (setup.places mark holdings world).countP (·.origin == .fallback), false⟩ := by
  rw [drafted, draftAll_eq setup 0 (setup.merged mark holdings world) (by simpa using inTime)]
  rfl

theorem report_eq
    (inTime : ∀ done ≤ (setup.merged mark holdings world).length, setup.isLate mark done = false) :
    setup.report mark holdings world = setup.summary mark holdings world := by
  rw [report, drafted_eq inTime]
  rfl

theorem run_eq
    (inTime : ∀ done ≤ (setup.merged mark holdings world).length, setup.isLate mark done = false) :
    ((setup.run mark holdings).run world).1 =
      if (setup.merged mark holdings world).isEmpty then
        (.error .noEvents, { holdings with archive := (setup.collected mark holdings world).1.2 })
      else
        (.ok (setup.summary mark holdings world),
          { archive := (setup.collected mark holdings world).1.2
            database :=
              (holdings.database.sync mark.startedAt (setup.drafts mark holdings world)).1
            records := holdings.records ++ [{
              id := mark.id
              startedAt := mark.startedAt
              finishedAt := mark.finishedAt
              summary := setup.summary mark holdings world
              directory := mark.id.directory setup.settings.reportsRoot }] }) := by
  rw [run_eq_drafted, report_eq inTime, drafted_eq inTime]
  by_cases none_merged : (setup.merged mark holdings world).isEmpty = true
  · rw [if_pos none_merged, if_pos none_merged]
  · have some_drafts : ¬ (setup.drafts mark holdings world).isEmpty = true := by
      rwa [isEmpty_drafts]
    rw [if_neg none_merged, if_neg none_merged, if_neg some_drafts]

theorem database_run
    (inTime : ∀ done ≤ (setup.merged mark holdings world).length, setup.isLate mark done = false) :
    ((setup.run mark holdings).run world).1.2.database =
      (holdings.database.sync mark.startedAt (setup.drafts mark holdings world)).1 := by
  rw [database_run_drafted, drafted_eq inTime]

theorem isAccount_summary :
    (setup.summary mark holdings world).IsAccount (setup.offers mark holdings world)
      (setup.merged mark holdings world) (setup.places mark holdings world) where
  sources := by
    rw [summary, RunSummary.of, List.map_map]
    exact List.map_congr_left fun _ _ => Feed.Offer.report_contribution
  merged := rfl
  built := length_drafts setup mark holdings world
  stored := Database.sync_total _ _ _
  fallbacks := rfl
  status := by
    simp only [summary, RunSummary.of, RunStatus.of, Bool.false_or, Bool.or_eq_true,
      decide_eq_true_eq, gt_iff_lt, List.any_eq_true, or_comm]

/-- A run stores the events of the announcements that could be read, merged in the order of the
feeds, and would store the same ones if the feeds that failed had nothing to offer. It comes to
nothing exactly when there are no such announcements, and otherwise accounts for all of them. -/
theorem run_isolates_failures
    (inTime : ∀ done ≤ (setup.merged mark holdings world).length, setup.isLate mark done = false) :
    ((setup.hushed.run mark holdings).run world).1.2.database =
        ((setup.run mark holdings).run world).1.2.database ∧
      (((setup.run mark holdings).run world).1.1 = .error .noEvents ↔
        setup.merged mark holdings world = []) ∧
      (setup.merged mark holdings world = [] →
        ((setup.run mark holdings).run world).1.2.database = holdings.database ∧
          ((setup.run mark holdings).run world).1.2.records = holdings.records) ∧
      (setup.merged mark holdings world ≠ [] → ∃ summary,
        ((setup.run mark holdings).run world).1.1 = .ok summary ∧
          (((setup.run mark holdings).run world).1.2.database, summary.outcome) =
            holdings.database.sync mark.startedAt (setup.drafts mark holdings world) ∧
          summary.IsAccount (setup.offers mark holdings world) (setup.merged mark holdings world)
            (setup.places mark holdings world)) := by
  have hushedInTime : ∀ done ≤ (setup.hushed.merged mark holdings world).length,
      setup.hushed.isLate mark done = false := by
    rw [merged_hushed]
    exact inTime
  -- What a failed feed offers never reaches the drafts, and only drafts reach the store.
  have same : ((setup.hushed.run mark holdings).run world).1.2.database =
      ((setup.run mark holdings).run world).1.2.database := by
    rw [database_run hushedInTime, database_run inTime, drafts_hushed]
  refine ⟨same, ?_⟩
  rw [run_eq inTime]
  by_cases none_merged : setup.merged mark holdings world = []
  · rw [if_pos (List.isEmpty_iff.2 none_merged)]
    exact ⟨⟨fun _ => none_merged, fun _ => rfl⟩, fun _ => ⟨rfl, rfl⟩,
      fun some_merged => absurd none_merged some_merged⟩
  · rw [if_neg (mt List.isEmpty_iff.1 none_merged)]
    refine ⟨⟨nofun, fun h => absurd h none_merged⟩, fun h => absurd h none_merged, fun _ => ?_⟩
    exact ⟨setup.summary mark holdings world, rfl, rfl, isAccount_summary⟩

/-- A setup of which the first feed cannot be fetched and the second breaks down while it is read.
The third announces a place twice. -/
def sampleSetup : RunSetup :=
  let day := Date.sample
  let document : Document := {
    source := .primaryBoard, date := day, title := [], address := [], content := .text [] }
  let announced (startTime place : String) : Announcement :=
    ⟨.primaryBoard, day, startTime, untilDismissal, [place], none, none, none⟩
  { settings := .standard []
    feeds := [
      ⟨.primaryBoard, fun _ _ archive => pure (.error .noText, archive), fun _ => .aborted⟩,
      ⟨.secondarySystem, fun _ _ archive => pure (.ok (some document), archive), fun _ => .aborted⟩,
      ⟨.primaryBoard, fun _ _ archive => pure (.ok (some document), archive),
        fun _ => .announced [announced "9:00" "시청", announced "10:00" "시청",
          announced "9:00" "시청"]⟩]
    search := fun _ => pure (.ok none) }

/-- A run that starts and ends at a moment, with no time passing. -/
def sampleMark : RunMark :=
  ⟨.ofRandom 0, EventStore.sampleMoment, EventStore.sampleMoment, fun _ => ⟨0⟩⟩

theorem run_isolates_failures_sample :
    ∃ summary, ((sampleSetup.run sampleMark { database := ⟨some {}⟩ }).run {}).1.1 = .ok summary ∧
      summary.mergedRows = 2 ∧ summary.outcome = ⟨1, 1, 0⟩ ∧ summary.fallbacks = 2 ∧
      summary.status = .warning := by
  have merged : (sampleSetup.merged sampleMark { database := ⟨some {}⟩ } {}).length = 2 := by
    decide +kernel
  obtain ⟨-, -, -, accounted⟩ :=
    @run_isolates_failures sampleSetup sampleMark { database := ⟨some {}⟩ } {} fun _ _ => rfl
  obtain ⟨summary, ok, stored, account⟩ := accounted (List.ne_nil_of_length_eq_add_one merged)
  have failed : (Source.primaryBoard, 0, true) ∈
      summary.sources.map fun s => (s.source, s.rows, s.error.isSome) := by
    rw [account.sources]
    exact .head _
  obtain ⟨report, member, fields⟩ := List.mem_map.1 failed
  have error : report.error.isSome = true := congrArg (·.2.2) fields
  refine ⟨summary, ok, account.merged.trans merged, (congrArg Prod.snd stored).trans ?_,
    account.fallbacks.trans ?_, account.status.trans (if_pos (.inl ⟨report, member, error⟩))⟩
  · decide +kernel
  · decide +kernel

end

end RunSetup

end RouteAlerts
