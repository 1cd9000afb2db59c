import RouteAlerts.Proofs.Announcement.TidyPlaces
import RouteAlerts.Proofs.Event.Draft
import RouteAlerts.Proofs.Event.Recurrence
import RouteAlerts.Proofs.Run.Accounts

/-!
Runs that are repeated. The title, the place and the start of an event hang on its announcement
alone, not on where a search finds it. So once a run has stored its announcements, whatever was
stored before, any later run over the same announcements finds duplicates and nothing else
(`rerun_only_duplicates`).
-/

namespace RouteAlerts

open Text Web

/-! ### Stored announcements -/

/-- A row with the title, the place and the start of an announcement. -/
structure Row.Tells (r : Row) (a : Announcement) : Prop where
  title : r.title = String.ofList (eventTitle a.locationName a.headcount)
  place : r.locationName = String.ofList a.locationName
  start : r.start = Timestamp.write a.start

namespace Announcement

variable {a : Announcement}

/-- Events of one announcement repeat each other, wherever they are. -/
theorem repeats_draft (district district' : List Char) (p q : Point) :
    (a.draft district p).Repeats (a.draft district' q) :=
  ⟨rfl, rfl, rfl⟩

/-- A first place that is not blank is where the event is. -/
theorem locationName_eq {first : String} {rest : List String} (places : a.places = first :: rest)
    (solid : trim first.toList ≠ []) : a.locationName = trim first.toList := by
  have primary : a.primaryPlace = some (String.ofList (trim first.toList)) := by
    simp [primaryPlace, places, solid]
  rw [locationName, primary]
  exact String.toList_ofList

end Announcement

namespace EventStore

/-- A store each of whose events tells an announcement. -/
def IsAnnounced (s : EventStore) : Prop := ∀ r ∈ s.rows, ∃ a, r.Tells a

variable {s : EventStore} {a : Announcement} {district : List Char} {p : Point}

theorem IsAnnounced.add (h : s.IsAnnounced) (now : Moment) :
    (s.add now (a.draft district p)).IsAnnounced := by
  intro r hr
  rcases mem_rows_add hr with old | rfl
  · exact h r old
  · exact ⟨a, rfl, rfl, rfl⟩

theorem IsAnnounced.sync (h : s.IsAnnounced) (now : Moment) {batch : List EventDraft}
    (drafted : ∀ d ∈ batch, ∃ a : Announcement, ∃ district p, d = a.draft district p) :
    (s.sync now batch).1.IsAnnounced := by
  refine sync_induction (fun s d hd announced => ?_) h
  obtain ⟨a, district, p, rfl⟩ := drafted d hd
  exact announced.add now

/-- What keeps the event of an announcement out is at its place and starts on its day. An event on a
day that is written with more or fewer than four digits for the year keeps nothing out. -/
theorem IsAnnounced.exists_row (h : s.IsAnnounced) (year : a.date.HasPlainYear)
    (known : s.IsKnown (a.draft district p)) :
    ∃ r ∈ s.rows, r.startDate? = some a.date ∧ r.locationName = String.ofList a.locationName := by
  obtain ⟨r, hr, clash⟩ := known
  obtain ⟨b, title, place, start⟩ := h r hr
  have noLeap : ∀ {c : Announcement}, c.start.time.second ≤ 59 := by
    intro c
    change (TimeOfDay.ofPrinted _).second ≤ 59
    rw [TimeOfDay.second_ofPrinted]
    omega
  have plain : a.start.IsPlain := ⟨year.1, year.2, noLeap⟩
  simp only [Row.clashes, Bool.and_eq_true, Bool.or_eq_true, beq_iff_eq] at clash
  obtain ⟨shared, sameDay⟩ := clash
  -- A shared title is enough, for titles of drafts name their places.
  have samePlace : r.locationName = String.ofList a.locationName := by
    rcases shared with sharedPlace | sharedTitle
    · exact sharedPlace
    · rw [title] at sharedTitle
      rw [place, (eventTitle_injective (String.ofList_injective sharedTitle)).1]
  -- The stored start need not be plain beforehand; that its day was read tells its date.
  have date : b.date = a.date := by
    change r.startsOn (Timestamp.day? (Timestamp.write a.start)) = true at sameDay
    unfold Row.startsOn at sameDay
    rw [start, Timestamp.day?_write plain] at sameDay
    cases day : Timestamp.day? (Timestamp.write b.start) with
    | none => simp [day] at sameDay
    | some n =>
      have number : n = b.start.date.toDays := Timestamp.eq_toDays_of_day?_write noLeap day
      simp only [day, number, beq_iff_eq] at sameDay
      exact Date.toDays_injective sameDay
  have plainStart : b.start.IsPlain := by
    change 0 ≤ b.date.year ∧ b.date.year ≤ 9999 ∧ _
    rw [date]
    exact ⟨year.1, year.2, noLeap⟩
  refine ⟨r, hr, ?_, samePlace⟩
  rw [startDate?_eq plainStart start]
  exact congrArg some date

end EventStore

/-! ### Runs one after the other -/

/-- What any number of runs may leave behind, whatever they work with. -/
inductive Holdings.IsReached : Holdings → Prop where
  | start (archive : Archive) (records : List RunRecord) :
      IsReached { archive, database := Database.migrate {}, records }
  | run (setup : RunSetup) (mark : RunMark) (world : World) {holdings : Holdings} :
      IsReached holdings → IsReached ((setup.run mark holdings).run world).1.2

namespace RunSetup

variable {setup : RunSetup} {mark : RunMark} {holdings : Holdings} {world : World}

/-- A run leaves a table of events behind when it finds one, and keeps it announced. -/
theorem isAnnounced_run {s : EventStore} (table : holdings.database.table = some s)
    (h : s.IsAnnounced) :
    ∃ t, ((setup.run mark holdings).run world).1.2.database.table = some t ∧ t.IsAnnounced := by
  refine ⟨(s.sync mark.startedAt (setup.drafted mark holdings world).drafts).1, ?_, ?_⟩
  · rw [database_run_drafted, Database.sync, table]
  · refine h.sync mark.startedAt fun d hd => ?_
    obtain ⟨a, -, p, drafted⟩ := exists_of_mem_drafted hd
    exact ⟨a, _, p, drafted⟩

theorem isAnnounced_of_isReached (reached : holdings.IsReached) :
    ∃ s, holdings.database.table = some s ∧ s.IsAnnounced := by
  induction reached with
  | start archive records => exact ⟨{}, rfl, fun r hr => absurd hr List.not_mem_nil⟩
  | run setup mark world _ ih =>
    obtain ⟨s, table, announced⟩ := ih
    exact isAnnounced_run table announced

/-- What a run reports when it reports anything. -/
theorem report_of_ok {summary : RunSummary}
    (h : ((setup.run mark holdings).run world).1.1 = .ok summary) :
    summary = setup.report mark holdings world := by
  rw [run_eq_drafted] at h
  split at h
  · cases h
  · split at h
    · cases h
    · exact (Except.ok.inj h).symm

/-- A run that is in time drafts an event of every announcement. -/
theorem exists_mem_drafts {a : Announcement} (h : a ∈ setup.merged mark holdings world) :
    ∃ p, a.draft setup.settings.district p ∈ setup.drafts mark holdings world := by
  obtain ⟨i, bound, rfl⟩ := List.mem_iff_getElem.mp h
  have placed : i < (setup.places mark holdings world).length := by
    rwa [places, length_locateAll]
  have inDrafts : i < (setup.drafts mark holdings world).length := by rwa [length_drafts]
  refine ⟨((setup.places mark holdings world)[i]).point, ?_⟩
  have drafted := List.getElem_mem inDrafts
  simpa only [drafts, draftsAt, List.getElem_zipWith] using drafted

section

variable {s : EventStore} (table : holdings.database.table = some s)

include table

/-- After a run that drafts all its announcements and of which nothing fails, an event of any of
them is known, wherever it is. -/
theorem isKnown_of_completed
    (year : ∀ a ∈ setup.merged mark holdings world, a.date.HasPlainYear)
    (none_failed : (setup.report mark holdings world).outcome.failed = 0)
    (inTime : (setup.drafted mark holdings world).timeUp = false) {a : Announcement}
    (ha : a ∈ setup.merged mark holdings world) (district : List Char) (p : Point) :
    (s.sync mark.startedAt (setup.drafted mark holdings world).drafts).1.IsKnown
      (a.draft district p) := by
  have plain : ∀ d ∈ (setup.drafted mark holdings world).drafts, d.IsPlain := by
    intro d hd
    obtain ⟨b, hb, q, rfl⟩ := exists_of_mem_drafted hd
    exact Announcement.isPlain_draft (year b hb)
  have failed :
      (s.sync mark.startedAt (setup.drafted mark holdings world).drafts).2.failed = 0 := by
    change (holdings.database.sync mark.startedAt _).2.failed = 0 at none_failed
    rwa [Database.sync, table] at none_failed
  have drafted : ∃ q, a.draft setup.settings.district q ∈
      (setup.drafted mark holdings world).drafts := by
    rw [drafted_eq (inTime_of_drafted inTime)]
    exact exists_mem_drafts ha
  obtain ⟨q, hq⟩ := drafted
  exact (EventStore.isKnown_of_failed_eq_zero plain failed hq).of_repeats
    (Announcement.repeats_draft district setup.settings.district p q)

/-- A run whose announcements are known stores nothing. -/
theorem sync_drafted_of_known
    (known : ∀ a ∈ setup.merged mark holdings world, ∀ district p,
      s.IsKnown (Announcement.draft a district p)) :
    holdings.database.sync mark.startedAt (setup.drafted mark holdings world).drafts =
      (holdings.database, ⟨0, (setup.drafted mark holdings world).drafts.length, 0⟩) := by
  have all : ∀ d ∈ (setup.drafted mark holdings world).drafts, s.IsKnown d := by
    intro d hd
    obtain ⟨a, ha, p, rfl⟩ := exists_of_mem_drafted hd
    exact known a ha setup.settings.district p
  have same : holdings.database = ⟨some s⟩ := by rw [← table]
  rw [same]
  change (Database.mk (some (s.sync _ _).1), (s.sync _ _).2) = _
  rw [EventStore.sync_eq_self mark.startedAt all]

end

/-- What a repetition reports, whatever time it has. -/
theorem report_of_known {s : EventStore} (table : holdings.database.table = some s)
    (known : ∀ a ∈ setup.merged mark holdings world, ∀ district p,
      s.IsKnown (Announcement.draft a district p)) :
    (setup.report mark holdings world).outcome =
      ⟨0, (setup.report mark holdings world).builtEvents, 0⟩ := by
  change (holdings.database.sync mark.startedAt _).2 = _
  rw [sync_drafted_of_known table known]
  rfl

/-- A completed run leaves a table of announced events behind in which its own are known. -/
theorem exists_store_of_completed (reached : holdings.IsReached)
    (year : ∀ a ∈ setup.merged mark holdings world, a.date.HasPlainYear)
    (none_failed : (setup.report mark holdings world).outcome.failed = 0)
    (inTime : (setup.drafted mark holdings world).timeUp = false) :
    ∃ t, ((setup.run mark holdings).run world).1.2.database.table = some t ∧ t.IsAnnounced ∧
      ∀ a ∈ setup.merged mark holdings world, ∀ district p,
        t.IsKnown (Announcement.draft a district p) := by
  obtain ⟨s, table, -⟩ := isAnnounced_of_isReached reached
  obtain ⟨t, tableAfter, announced⟩ := isAnnounced_of_isReached (reached.run setup mark world)
  have stored : t = (s.sync mark.startedAt (setup.drafted mark holdings world).drafts).1 := by
    rw [database_run_drafted, Database.sync, table] at tableAfter
    exact (Option.some.inj tableAfter).symm
  refine ⟨t, tableAfter, announced, fun a ha => ?_⟩
  rw [stored]
  exact isKnown_of_completed table year none_failed inTime ha

/-- A run that is in time has as many events as announcements. -/
theorem builtEvents_report (inTime : (setup.drafted mark holdings world).timeUp = false) :
    (setup.report mark holdings world).builtEvents =
      (setup.merged mark holdings world).length := by
  rw [report_eq (inTime_of_drafted inTime)]
  exact length_drafts setup mark holdings world

/-- A run that is in time and of which nothing fails has inserted or found all its announcements. -/
theorem inserted_add_duplicates_report (inTime : (setup.drafted mark holdings world).timeUp = false)
    (none_failed : (setup.report mark holdings world).outcome.failed = 0) :
    (setup.report mark holdings world).outcome.inserted +
        (setup.report mark holdings world).outcome.duplicates =
      (setup.merged mark holdings world).length := by
  have total : (setup.report mark holdings world).outcome.inserted +
      (setup.report mark holdings world).outcome.duplicates +
        (setup.report mark holdings world).outcome.failed =
          (setup.report mark holdings world).builtEvents := Database.sync_total _ _ _
  rwa [none_failed, Nat.add_zero, builtEvents_report inTime] at total

theorem isEmpty_merged_of_ok {summary : RunSummary}
    (h : ((setup.run mark holdings).run world).1.1 = .ok summary) :
    (setup.merged mark holdings world).isEmpty = false := by
  refine Bool.eq_false_iff.mpr fun none_merged => ?_
  rw [run_eq_drafted, if_pos none_merged] at h
  cases h

theorem exists_ok_of_inTime (some_merged : (setup.merged mark holdings world).isEmpty = false)
    (inTime : ∀ done ≤ (setup.merged mark holdings world).length, setup.isLate mark done = false) :
    ∃ summary, ((setup.run mark holdings).run world).1.1 = .ok summary ∧
      summary.deadlineReached = false := by
  refine ⟨setup.summary mark holdings world, ?_, rfl⟩
  rw [run_eq inTime, some_merged, if_neg Bool.false_ne_true]

end RunSetup

/-- An announcement with a year of four digits, of whose places none is blank. -/
structure Announcement.IsSound (a : Announcement) : Prop where
  year : a.date.HasPlainYear
  solid : ∀ p ∈ a.places, trim p.toList ≠ []

instance (a : Announcement) : Decidable a.IsSound :=
  decidable_of_iff (a.date.HasPlainYear ∧ ∀ p ∈ a.places, trim p.toList ≠ [])
    ⟨fun ⟨year, solid⟩ => ⟨year, solid⟩, fun h => ⟨h.year, h.solid⟩⟩

/-- What keeps the event of a sound announcement out is on its day and at its first place. -/
theorem EventStore.IsAnnounced.exists_row_of_isSound {s : EventStore} {a : Announcement}
    {district : List Char} {p : Point} (h : s.IsAnnounced) (sound : a.IsSound)
    (named : a.places ≠ []) (known : s.IsKnown (a.draft district p)) :
    ∃ place others, a.places = place :: others ∧ ∃ r ∈ s.rows, r.startDate? = some a.date ∧
      r.locationName = String.ofList (trim place.toList) := by
  obtain ⟨place, others, places⟩ := List.exists_cons_of_ne_nil named
  obtain ⟨r, hr, date, location⟩ := h.exists_row sound.year known
  have solid : trim place.toList ≠ [] := sound.solid place (by simp [places])
  refine ⟨place, others, places, r, hr, date, ?_⟩
  rw [location, Announcement.locationName_eq places solid]

namespace RunSetup

variable {setup again : RunSetup} {mark mark' : RunMark} {holdings holdings' : Holdings}
  {world world' : World}

/-- Take what any runs have left behind, and a run over sound announcements that is in time and of
which nothing fails. Each of its announcements then has a stored event on its day and at its first
place, trimmed. A later run over the same announcements, with whatever search and settings, leaves
the events as they are and finds nothing but duplicates; if it is in time as well, it finds as many
of them as the first run had inserted or found. -/
theorem rerun_only_duplicates {first : RunSummary} (reached : holdings.IsReached)
    (sound : ∀ a ∈ setup.merged mark holdings world, a.IsSound)
    (completed : ((setup.run mark holdings).run world).1.1 = .ok first)
    (none_failed : first.outcome.failed = 0) (inTime : first.deadlineReached = false)
    (kept : holdings'.database = ((setup.run mark holdings).run world).1.2.database)
    (sameRows : (again.offers mark' holdings' world').filterMap (·.2.announced?) =
      (setup.offers mark holdings world).filterMap (·.2.announced?)) :
    let result := ((again.run mark' holdings').run world').1
    result.2.database = holdings'.database ∧
      (∀ second, result.1 = .ok second →
        second.outcome = ⟨0, second.builtEvents, 0⟩ ∧
          (second.deadlineReached = false →
            second.builtEvents = first.outcome.inserted + first.outcome.duplicates)) ∧
      ((∀ done ≤ first.mergedRows, again.isLate mark' done = false) →
        ∃ second, result.1 = .ok second ∧ second.deadlineReached = false) ∧
      ∃ store, holdings'.database.table = some store ∧
        ∀ a ∈ setup.merged mark holdings world, ∃ place others, a.places = place :: others ∧
          ∃ r ∈ store.rows, r.startDate? = some a.date ∧
            r.locationName = String.ofList (trim place.toList) := by
  obtain rfl := report_of_ok completed
  obtain ⟨t, table, announced, knownAfter⟩ := exists_store_of_completed reached
    (fun a ha => (sound a ha).year) none_failed inTime
  rw [← kept] at table
  have sameMerged : again.merged mark' holdings' world' = setup.merged mark holdings world := by
    rw [merged, sameRows, merged]
  -- What the first run leaves behind keeps out every draft of the same announcements, wherever the
  -- second run locates them.
  have known : ∀ a ∈ again.merged mark' holdings' world', ∀ district p,
      t.IsKnown (Announcement.draft a district p) := by
    rw [sameMerged]
    exact knownAfter
  refine ⟨?_, ?_, ?_, t, table, ?_⟩
  · rw [database_run_drafted, sync_drafted_of_known table known]
  · intro second ok
    obtain rfl := report_of_ok ok
    refine ⟨report_of_known table known, fun inTimeToo => ?_⟩
    rw [builtEvents_report inTimeToo, sameMerged,
      inserted_add_duplicates_report inTime none_failed]
  · intro inTimeToo
    refine exists_ok_of_inTime ?_ ?_
    · rw [sameMerged]
      exact isEmpty_merged_of_ok completed
    · rw [sameMerged]
      exact inTimeToo
  · intro a ha
    obtain ⟨named, -⟩ := Announcement.exists_origin ha
    exact announced.exists_row_of_isSound (sound a ha) named (knownAfter a ha [] ⟨0, 0⟩)

def sampleElsewhere : RunSetup :=
  { sampleSetup with search := fun _ => pure (.ok (some ⟨"시청", none, ⟨37.5, 127.0⟩⟩)) }

/-- The sample run stores one of its two announcements and finds the other one a duplicate. Found
elsewhere, both are duplicates. -/
theorem rerun_only_duplicates_sample :
    let after := ((sampleSetup.run sampleMark { database := Database.migrate {} }).run {}).1.2
    ∃ second, ((sampleElsewhere.run sampleMark after).run {}).1.1 = .ok second ∧
      second.outcome = ⟨0, 2, 0⟩ := by
  intro after
  have completed : ((sampleSetup.run sampleMark { database := Database.migrate {} }).run {}).1.1 =
      .ok (sampleSetup.summary sampleMark { database := Database.migrate {} } {}) := by
    rw [run_eq fun _ _ => rfl, if_neg (by decide +kernel)]
  obtain ⟨-, reports, inTime, -⟩ := @rerun_only_duplicates sampleSetup sampleElsewhere sampleMark
    sampleMark _ after {} {} _ (.start {} []) (by decide +kernel) completed (by decide +kernel) rfl
    rfl rfl
  obtain ⟨second, ok, early⟩ := inTime fun _ _ => rfl
  obtain ⟨outcome, built⟩ := reports second ok
  have both : (sampleSetup.summary sampleMark { database := Database.migrate {} } {}).outcome =
      ⟨1, 1, 0⟩ := by decide +kernel
  have two : second.builtEvents = 2 := by
    rw [built early, both]
    rfl
  exact ⟨second, ok, by rw [outcome, two]⟩

end RunSetup

end RouteAlerts
