import RouteAlerts.Proofs.Event.Draft
import RouteAlerts.Proofs.Place.Answers
import RouteAlerts.Proofs.Run.Accounts

/-!
Events that are refused. The columns can refuse nothing about an event that was drafted from an
announcement but its point, and that only when a coordinate is no number. With a fallback that is
somewhere and a search that knows its responses, such a point comes from a response that spells no
number, and from nothing else. So these responses, and no others, cost an announcement its event,
unless that is a duplicate anyway (`stored_unless_misled`).
-/

namespace RouteAlerts

open Text Web

namespace Announcement

/-- Whether an announcement is located where a response spells no number. -/
def isMisled (a : Announcement) (r : Region) (bodies : List Char → Bytes) : Bool :=
  r.isMisled bodies (a.primaryPlace.map String.toList) a.embeddedPoint

/-- The columns refuse the event of an announcement exactly for its point. -/
theorem isStorable_draft_iff {a : Announcement} {district : List Char} {p : Point} :
    (a.draft district p).IsStorable ↔ p.isNaN = false := by
  constructor
  · rintro ⟨lat, lon, -⟩
    exact Bool.or_eq_false_iff.mpr ⟨lat, lon⟩
  · exact isStorable_draft

end Announcement

namespace RunSetup

variable {setup : RunSetup} {bodies : List Char → Bytes} {late : Nat → Bool} {done : Nat}
  {announcements : List Announcement} {world : World}

/-- With a search that knows its responses, where an announcement is located hangs on nothing that
was located before. -/
theorem draft_eq_of_answering (search : setup.search = PlaceSearch.answering bodies) {i : Nat}
    {a : Announcement} {d : EventDraft} (atAnnouncement : announcements[i]? = some a)
    (atDraft : ((setup.draftAll late done announcements).run world).1.drafts[i]? = some d) :
    d = a.draft setup.settings.district (setup.settings.region.locateBy bodies
      (a.primaryPlace.map String.toList) a.embeddedPoint).point := by
  induction announcements generalizing done world i with
  | nil => cases atAnnouncement
  | cons first rest ih =>
    rw [run_draftAll_cons] at atDraft
    split at atDraft
    · cases atDraft
    · cases i with
      | zero =>
        obtain rfl : first = a := by simpa using atAnnouncement
        have drafted := Option.some.inj atDraft
        rw [← drafted, locate, search, Region.locate_answering]
        rfl
      | succ i => exact ih (by simpa using atAnnouncement) atDraft

/-- No more events are drafted than there are announcements. -/
theorem length_draftAll_le :
    ((setup.draftAll late done announcements).run world).1.drafts.length ≤
      announcements.length := by
  induction announcements generalizing done world with
  | nil => exact Nat.le_refl 0
  | cons first rest ih =>
    rw [run_draftAll_cons]
    split
    · exact Nat.zero_le _
    · exact Nat.succ_le_succ ih

section

variable (fallback : setup.settings.region.fallback.isNaN = false)
  (search : setup.search = PlaceSearch.answering bodies) {i : Nat} {a : Announcement}
  (atAnnouncement : announcements[i]? = some a)

include fallback search atAnnouncement

/-- The columns refuse the events of announcements that are misled, and no others. -/
theorem isStorable_iff_of_answering {d : EventDraft}
    (atDraft : ((setup.draftAll late done announcements).run world).1.drafts[i]? = some d) :
    d.IsStorable ↔ ¬ a.isMisled setup.settings.region bodies = true := by
  rw [draft_eq_of_answering search atAnnouncement atDraft, Announcement.isStorable_draft_iff,
    Region.isNaN_locateBy fallback, Bool.not_eq_true]
  exact Iff.rfl

theorem fate_of_answering {store : EventStore} {now : Moment} {fate : EventStore.Fate}
    (atFate : (store.fates now
      ((setup.draftAll late done announcements).run world).1.drafts)[i]? = some fate) :
    (a.isMisled setup.settings.region bodies = true → fate = .failed ∨ fate = .duplicate) ∧
      (¬ a.isMisled setup.settings.region bodies = true →
        fate = .inserted ∨ fate = .duplicate) := by
  have inDrafts := (List.getElem?_eq_some_iff.mp atFate).1
  rw [store.length_fates] at inDrafts
  have atDraft := List.getElem?_eq_getElem inDrafts
  have columns := isStorable_iff_of_answering fallback search atAnnouncement atDraft
  obtain ⟨taken, due⟩ := EventStore.exists_isDue_of_fates atDraft atFate
  cases fate with
  | duplicate => exact ⟨fun _ => .inr rfl, fun _ => .inr rfl⟩
  | inserted => exact ⟨fun misled => absurd misled (columns.mp due.2), fun _ => .inl rfl⟩
  | failed => exact ⟨fun _ => .inl rfl, fun sound => absurd (columns.mpr sound) due.2⟩

end

/-- Take any announcements, any store, a fallback that is somewhere, and a search with any response
to every query. The columns take the event of an announcement exactly when the announcement is not
misled. An event that is no duplicate is inserted or fails accordingly. So nothing fails when no
announcement is misled. -/
theorem stored_unless_misled (fallback : setup.settings.region.fallback.isNaN = false)
    (search : setup.search = PlaceSearch.answering bodies) (late : Nat → Bool) (done : Nat)
    (announcements : List Announcement) (world : World) (store : EventStore) (now : Moment) :
    let misled (a : Announcement) : Prop := a.isMisled setup.settings.region bodies = true
    let drafts := ((setup.draftAll late done announcements).run world).1.drafts
    let fates := store.fates now drafts
    let outcome := (store.sync now drafts).2
    (∀ (i : Nat) (a : Announcement) (d : EventDraft), announcements[i]? = some a →
        drafts[i]? = some d → (d.IsStorable ↔ ¬ misled a)) ∧
      (∀ (i : Nat) (a : Announcement) (fate : EventStore.Fate), announcements[i]? = some a →
        fates[i]? = some fate →
          (misled a → fate = .failed ∨ fate = .duplicate) ∧
          (¬ misled a → fate = .inserted ∨ fate = .duplicate)) ∧
      outcome = EventStore.tally fates ∧
      outcome.inserted + outcome.duplicates + outcome.failed = drafts.length ∧
      ((∀ a ∈ announcements, ¬ misled a) →
        outcome.failed = 0 ∧ outcome.inserted + outcome.duplicates = drafts.length) := by
  intro misled drafts fates outcome
  have counted : outcome = EventStore.tally fates := store.sync_snd now drafts
  have total : outcome.inserted + outcome.duplicates + outcome.failed = drafts.length := by
    rw [counted, EventStore.tally_total, EventStore.length_fates]
  refine ⟨fun i a d atAnnouncement => isStorable_iff_of_answering fallback search atAnnouncement,
    fun i a fate atAnnouncement => fate_of_answering fallback search atAnnouncement, counted, total,
    fun none_misled => ?_⟩
  -- A failure among the fates would be that of some announcement, and that one was misled.
  have none_failed : outcome.failed = 0 := by
    rw [counted]
    refine List.count_eq_zero.mpr fun failed => ?_
    obtain ⟨i, inFates, atFate⟩ := List.mem_iff_getElem.mp failed
    -- A run that is out of time drafts fewer events than there are announcements, but never more.
    have inAnnouncements : i < announcements.length := by
      rw [store.length_fates] at inFates
      exact Nat.lt_of_lt_of_le inFates length_draftAll_le
    have due := fate_of_answering fallback search (List.getElem?_eq_getElem inAnnouncements)
      (List.getElem?_eq_some_iff.mpr ⟨inFates, atFate⟩)
    rcases due.2 (none_misled _ (List.getElem_mem inAnnouncements)) with inserted | duplicate
    · cases inserted
    · cases duplicate
  exact ⟨none_failed, by omega⟩

/-- A setup with one announcement and a search with one response to all queries. -/
def sampleAnswered (body : String) : RunSetup :=
  let day := Date.sample
  let document : Document := {
    source := .primaryBoard, date := day, title := [], address := [], content := .text [] }
  { settings := .standard []
    feeds := [
      ⟨.primaryBoard, fun _ _ archive => pure (.ok (some document), archive),
        fun _ => .announced
          [⟨.primaryBoard, day, "9:00", untilDismissal, ["시청"], none, none, none⟩]⟩]
    search := PlaceSearch.answering fun _ => body.toUTF8.toList }

def sampleFound : String :=
  "\x7b\"documents\":[\x7b\"x\":\"126.98\",\"y\":\"37.57\"\x7d]\x7d"

/-- A response with a place that is nowhere. -/
def sampleMisleading : String :=
  "\x7b\"documents\":[\x7b\"x\":\"nan\",\"y\":\"37.57\"\x7d]\x7d"

set_option maxRecDepth 10000 in
theorem stored_unless_misled_sample :
    let setup := sampleAnswered sampleFound
    let merged := setup.merged sampleMark {} {}
    let drafts := ((setup.draftAll (setup.isLate sampleMark) 0 merged).run {}).1.drafts
    let outcome := (EventStore.sync {} EventStore.sampleMoment drafts).2
    outcome.failed = 0 ∧ outcome.inserted + outcome.duplicates = 1 := by
  intro setup merged drafts outcome
  have fallback : setup.settings.region.fallback.isNaN = false := by decide +kernel
  obtain ⟨-, -, -, -, stored⟩ :=
    stored_unless_misled fallback rfl (setup.isLate sampleMark) 0 merged {} {}
      EventStore.sampleMoment
  have one : drafts.length = 1 := by decide +kernel
  rw [← one]
  exact stored (by decide +kernel)

set_option maxRecDepth 10000 in
/-- A response that spells no number costs a run its only event, though there is a fallback. -/
theorem run_misled_sample :
    let setup := sampleAnswered sampleMisleading
    let result := ((setup.run sampleMark { database := Database.migrate {} }).run {}).1
    setup.settings.region.fallback.isNaN = false ∧
      ∃ summary, result.1 = .ok summary ∧ summary.builtEvents = 1 ∧ summary.outcome = ⟨0, 0, 1⟩ ∧
        summary.status = .warning ∧ result.2.database.table.map (·.rows.length) = some 0 := by
  intro setup result
  have completed : result.1 =
      .ok (setup.summary sampleMark { database := Database.migrate {} } {}) := by
    change ((setup.run sampleMark { database := Database.migrate {} }).run {}).1.1 = _
    rw [run_eq fun _ _ => rfl, if_neg (by decide +kernel)]
  exact ⟨by decide +kernel, _, completed, by decide +kernel⟩

end RunSetup

end RouteAlerts
