import RouteAlerts.Proofs.Announcement.TidyPlaces
import RouteAlerts.Proofs.Run.Accounts
import RouteAlerts.Proofs.Schedule.Slots

/-!
The places of a run. Whatever the text of a bulletin or the page of a table holds, the announcements
that are read from it name places, and each of them is a tidy piece without the signs that its
source is cut at. A merge keeps that, so every event of a run is at the first place of its
announcement.
-/

namespace RouteAlerts

open Text

def Source.isSign : Source → Char → Bool
  | .primaryBoard => Bulletin.isGlyph
  | .secondarySystem => Schedule.isSeparator

/-! ### Bulletins -/

namespace Bulletin

theorem isTidy_of_mem_placesOf {s p : List Char} (h : p ∈ placesOf s) : IsTidy isGlyph p := by
  obtain ⟨member, nonempty⟩ := List.mem_filter.mp h
  obtain ⟨piece, inText, rfl⟩ := List.mem_map.mp member
  exact isTidy_of_mem_splitWhere inText (by simpa using nonempty)

/-- Places are tidy whether they stand before the attendance figure or were looked for in the whole
text. -/
theorem isTidy_of_mem_detail {s p : List Char} (h : p ∈ (Detail.of s).places) :
    IsTidy isGlyph p := by
  obtain ⟨before, places⟩ : ∃ before, (Detail.of s).places =
      if (placesOf before).isEmpty then placesOf (trim s) else placesOf before := ⟨_, rfl⟩
  rw [places] at h
  split at h
  · exact isTidy_of_mem_placesOf h
  · exact isTidy_of_mem_placesOf h

theorem hasTidyPlaces_of_announce? {date : Date} {range : PrintedClock × PrintedClock}
    {s : List Char} {a : Announcement} (h : announce? date range s = some a) :
    a.HasTidyPlaces Source.isSign := by
  rw [announce?, Option.ite_none_left_eq_some] at h
  obtain ⟨named, eq⟩ := h
  obtain rfl := Option.some.inj eq
  constructor
  · simpa using named
  · intro p hp
    obtain ⟨place, hplace, rfl⟩ := List.mem_map.mp hp
    rw [String.toList_ofList]
    exact isTidy_of_mem_detail hplace

theorem source_of_announce? {date : Date} {range : PrintedClock × PrintedClock}
    {s : List Char} {a : Announcement} (h : announce? date range s = some a) :
    a.source = .primaryBoard := by
  rw [announce?, Option.ite_none_left_eq_some] at h
  obtain ⟨-, eq⟩ := h
  rw [← Option.some.inj eq]

/-- What is read from a bulletin names tidy places. -/
theorem tidy_announcements {text : List Char} {date : Date} {a : Announcement}
    (h : a ∈ announcements text date) :
    a.source = .primaryBoard ∧ a.HasTidyPlaces Source.isSign := by
  obtain ⟨⟨range, detail⟩, -, announced⟩ := List.mem_filterMap.mp h
  exact ⟨source_of_announce? announced, hasTidyPlaces_of_announce? announced⟩

theorem tidy_read {extract : Bytes → Option (List Char)} {d : Document}
    {rows : List Announcement} {a : Announcement} (h : read extract d = .ok rows) (ha : a ∈ rows) :
    a.HasTidyPlaces Source.isSign := by
  unfold read at h
  split at h
  · split at h
    · obtain rfl := Except.ok.inj h
      exact (tidy_announcements ha).2
    · cases h
  · obtain rfl := Except.ok.inj h
    exact (tidy_announcements ha).2
  · cases h

end Bulletin

/-! ### Tables -/

namespace Schedule

/-- What is read from the page of a table names tidy places. -/
theorem tidy_announce {date : Date} {markup : List Char} {a : Announcement}
    (h : a ∈ (Slot.list markup).map (announce date)) :
    a.source = .secondarySystem ∧ a.HasTidyPlaces Source.isSign := by
  obtain ⟨slot, hslot, rfl⟩ := List.mem_map.mp h
  obtain ⟨some, tidy⟩ := Slot.areTidy_list markup slot hslot
  refine ⟨rfl, by simpa [announce] using some, fun p hp => ?_⟩
  obtain ⟨place, hplace, rfl⟩ := List.mem_map.mp hp
  rw [String.toList_ofList]
  exact tidy place hplace

theorem tidy_read {d : Document} {rows : List Announcement} {a : Announcement}
    (h : read d = .ok rows) (ha : a ∈ rows) : a.HasTidyPlaces Source.isSign := by
  unfold read at h
  split at h
  · obtain rfl := Except.ok.inj h
    exact (tidy_announce ha).2
  · cases h

end Schedule

/-! ### Runs -/

/-- A feed that reads bulletins or tables, wherever they come from. -/
inductive Feed.IsKnown : Feed → Prop where
  | board (extract : Bytes → Option (List Char)) (settings : Settings) :
      IsKnown (.board extract settings)
  | table (rendering : Schedule.Rendering) : IsKnown (.table rendering)

theorem Reading.of_eq_announced {answer : Except SourceError (List Announcement)}
    {rows : List Announcement} (h : Reading.of answer = .announced rows) : answer = .ok rows := by
  cases answer with
  | ok others => rw [Reading.announced.inj h]
  | error e => cases h

theorem Feed.IsKnown.tidy {feed : Feed} (known : feed.IsKnown) {d : Document}
    {rows : List Announcement} {a : Announcement} (h : feed.read d = .announced rows)
    (ha : a ∈ rows) : a.HasTidyPlaces Source.isSign := by
  cases known with
  | board extract settings => exact Bulletin.tidy_read (Reading.of_eq_announced h) ha
  | table rendering => exact Schedule.tidy_read (Reading.of_eq_announced h) ha

namespace RunSetup

theorem tidy_merged {setup : RunSetup} (known : ∀ feed ∈ setup.feeds, feed.IsKnown)
    {mark : RunMark} {holdings : Holdings} {world : Web.World} {a : Announcement}
    (h : a ∈ setup.merged mark holdings world) : a.HasTidyPlaces Source.isSign := by
  refine Announcement.hasTidyPlaces_of_mem_merge (fun rows hrows b hb => ?_) h
  obtain ⟨p, offered, announced⟩ := List.mem_filterMap.mp hrows
  obtain ⟨feed, member, d, read⟩ := Feed.exists_read_of_mem_offerAll _ _ _ offered announced
  exact (known feed member).tidy read hb

/-- Every announcement that is read from the text of a bulletin or from the page of a table names
at least one place, and its places hold something, are trimmed, stand on one line with single spaces
and have none of the signs that their source is cut at. A merge keeps that. So every announcement
that a run makes an event of is at the first of its places, and so is the event. -/
theorem places_tidy :
    (∀ text date, ∀ a ∈ Bulletin.announcements text date,
        a.source = .primaryBoard ∧ a.HasTidyPlaces Source.isSign) ∧
      (∀ markup date, ∀ a ∈ (Schedule.Slot.list markup).map (Schedule.announce date),
        a.source = .secondarySystem ∧ a.HasTidyPlaces Source.isSign) ∧
      (∀ sources : List (List Announcement),
        (∀ rows ∈ sources, ∀ a ∈ rows, a.HasTidyPlaces Source.isSign) →
          ∀ a ∈ Announcement.merge sources, a.HasTidyPlaces Source.isSign ∧
            ∃ first rest, a.places = first :: rest ∧ a.primaryPlace = some first ∧
              ∀ district point, (a.draft district point).locationName = first) ∧
      ∀ setup : RunSetup, (∀ feed ∈ setup.feeds, feed.IsKnown) →
        ∀ mark holdings world, ∀ a ∈ setup.merged mark holdings world,
          a.HasTidyPlaces Source.isSign ∧
            ∃ first rest, a.places = first :: rest ∧ a.primaryPlace = some first ∧
              ∀ district point, (a.draft district point).locationName = first := by
  refine ⟨fun _ _ _ => Bulletin.tidy_announcements, fun _ _ _ => Schedule.tidy_announce, ?_, ?_⟩
  · intro sources tidy a merged
    have kept := Announcement.hasTidyPlaces_of_mem_merge tidy merged
    exact ⟨kept, kept.exists_first⟩
  · intro setup known mark holdings world a merged
    have kept := tidy_merged known merged
    exact ⟨kept, kept.exists_first⟩

/-- Two sources that announce the same place for the same hour. -/
def sampleRows : List (List Announcement) :=
  let announced (source : Source) (places : List String) : Announcement :=
    ⟨source, Date.sample, "9:00", untilDismissal, places, none, none, none⟩
  [[announced .primaryBoard ["시청", "서울역"]],
    [announced .secondarySystem ["서울역", "광화문 광장"]]]

/-- The second announcement loses its first place, and its event moves to the next one. -/
theorem places_tidy_sample :
    (Announcement.merge sampleRows).map (fun a => (a.places, a.locationName)) =
        [(["시청", "서울역"], "시청".toList), (["광화문 광장"], "광화문 광장".toList)] ∧
      ∀ a ∈ Announcement.merge sampleRows, a.HasTidyPlaces Source.isSign := by
  have tidy : ∀ rows ∈ sampleRows, ∀ a ∈ rows, a.HasTidyPlaces Source.isSign := by decide +kernel
  constructor
  · decide +kernel
  · exact fun a merged => (places_tidy.2.2.1 sampleRows tidy a merged).1

end RunSetup

end RouteAlerts
