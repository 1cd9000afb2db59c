import RouteAlerts.Proofs.Bulletin.Detail
import RouteAlerts.Proofs.Bulletin.Range
import RouteAlerts.Proofs.Text.Hangul
import RouteAlerts.Proofs.Lists

/-!
Where the text of a bulletin goes. The text is a preamble and slots, each a printed time range with
the text up to the next range; the text of a slot is what stands before its attendance figure, the
figure, and what stands behind it. Blanks aside, the announcement of a slot has every character of
these parts in one place and in order: places are what stands before the figure without annotations
and march signs, the remark is what stands behind it and then the annotations.
-/

namespace RouteAlerts.Bulletin

open Text

/-! ### Places and annotations -/

section Annotations

variable {s gap : List Char} {notes : List (Found (List Char))}

/-- Taking march signs out and taking blanks out do not get in each other's way. -/
theorem strip_filter_glyph (s : List Char) :
    strip (s.filter (!isGlyph ·)) = (strip s).filter (!isGlyph ·) := by
  simp only [strip, List.filter_filter, Bool.and_comm]

/-- The places of a text hold all but its annotations and march signs. -/
theorem strip_placesOf (scan : Scan annotation? s gap notes) :
    strip (placesOf s).flatten =
      strip ((gap ++ notes.flatMap Found.behind).filter (!isGlyph ·)) := by
  have cleaned : strip (substitute annotation? (fun _ => [' ']) s) =
      strip (gap ++ notes.flatMap Found.behind) := by
    have space : ∀ t, strip (' ' :: t) = strip t := fun t => List.filter_cons_of_neg (by decide)
    simp [substitute, scan.cut_eq, List.flatMap_map, strip_flatMap, space]
  rw [placesOf, List.flatten_filter_not_isEmpty, strip_flatten, List.map_map]
  have trimmed : strip ∘ trim = strip := funext strip_trim
  rw [trimmed, ← strip_flatten, flatten_splitWhere, strip_filter_glyph, strip_squeeze, cleaned,
    ← strip_filter_glyph]

/-- The annotations of a text are the contents of what is taken out of its places. -/
theorem strip_annotationsOf (scan : Scan annotation? s gap notes) :
    strip (annotationsOf s) = strip (notes.flatMap Found.value) := by
  have trimmed : strip ∘ trim = strip := funext strip_trim
  rw [annotationsOf, strip_joinWith, strip_flatten, List.map_map, trimmed, matchesOf, scan.cut_eq,
    strip_flatMap]
  simp [List.flatMap_def, Function.comp_def]

end Annotations

theorem strip_remarkOf (text : List Char) :
    strip (remarkOf text) =
      strip ((segments text).after ++ annotationsOf (trim (segments text).before)) := by
  rw [remarkOf, strip_joinWith, List.flatten_filter_not_isEmpty]
  simp

/-! ### Announcements -/

/-- Whether a place is named before the attendance figure or, failing that, anywhere. -/
def namesPlace (text : List Char) : Bool :=
  !(placesOf (trim (segments text).before)).isEmpty || !(placesOf (trim text)).isEmpty

theorem isEmpty_places (text : List Char) :
    (Detail.of text).places.isEmpty = !namesPlace text := by
  rw [detail_of, namesPlace]
  cases h : (placesOf (trim (segments text).before)).isEmpty <;> simp [h]

/-- An announcement with every character of the parts of a slot once and in order, apart from
blanks, the march signs among the places and the brackets of annotations: the places are what stands
before the figure outside of annotations, and the remark is what stands behind it and then the
annotations. Places that are named nowhere before the figure are left open. -/
structure KeepsText (parts : Segments) (gap : List Char) (notes : List (Found (List Char)))
    (a : Announcement) : Prop where
  scan : Scan annotation? (trim parts.before) gap notes
  annotations : ∀ n ∈ notes, IsAnnotation n.printed n.value
  places : placesOf (trim parts.before) ≠ [] → strip (a.places.flatMap String.toList) =
    strip ((gap ++ notes.flatMap Found.behind).filter (!isGlyph ·))
  noRemark : a.remark = none ↔ strip (parts.after ++ notes.flatMap Found.value) = []
  remark : ∀ r ∈ a.remark, strip r.toList = strip (parts.after ++ notes.flatMap Found.value)

structure Announces (date : Date) (slot : Found (PrintedClock × PrintedClock)) (a : Announcement) :
    Prop where
  source : a.source = .primaryBoard
  date : a.date = date
  startTime : a.startTime.toList = strip slot.value.1.raw
  endTime : a.endTime.toList = strip slot.value.2.raw
  headcount : a.headcount = (segments slot.behind).value
  coordinates : a.coordinates = none
  parts : (segments slot.behind).IsSplit (trim slot.behind)
  text : ∃ gap notes, KeepsText (segments slot.behind) gap notes a

/-- The remark of a slot has what stands behind its figure and its annotations. -/
theorem strip_remark {text gap : List Char} {notes : List (Found (List Char))}
    (scan : Scan annotation? (trim (segments text).before) gap notes) :
    strip (Detail.of text).remark = strip ((segments text).after ++ notes.flatMap Found.value) := by
  rw [detail_of, strip_closeGaps, strip_squeeze, strip_remarkOf, strip_append, strip_append,
    strip_annotationsOf scan]

theorem remark_eq_nil_iff (text : List Char) :
    (Detail.of text).remark = [] ↔ strip (Detail.of text).remark = [] := by
  rw [detail_of, strip_closeGaps]
  exact closeGaps_eq_nil_iff

theorem announces_of_announce? {date : Date} {slot : Found (PrintedClock × PrintedClock)}
    {a : Announcement} (h : announce? date slot.value slot.behind = some a) :
    Announces date slot a := by
  rw [announce?] at h
  split at h
  · cases h
  · obtain rfl := Option.some.inj h
    obtain ⟨notes, scan⟩ := exists_scan takes_annotation? (trim (segments slot.behind).before)
    refine ⟨rfl, rfl, by simp, by simp, by rw [detail_of], rfl, isSplit_segments _, _, notes, scan,
      scan.forall_found fun s content rest => annotation?_eq_some, ?_, ?_, ?_⟩
    · intro named
      have places : (Detail.of slot.behind).places =
          placesOf (trim (segments slot.behind).before) := by
        rw [detail_of]
        simp [named]
      rw [← strip_placesOf scan, places, List.flatMap_map]
      simp [List.flatMap_def]
    · rw [← strip_remark scan, ← remark_eq_nil_iff]
      simp
    · intro r hr
      rw [← strip_remark scan]
      split at hr
      · cases hr
      · obtain rfl := Option.some.inj hr
        simp

theorem announce?_isSome (date : Date) (range : PrintedClock × PrintedClock) (text : List Char) :
    (announce? date range text).isSome = namesPlace text := by
  rw [announce?, isEmpty_places]
  cases namesPlace text <;> rfl

/-- The announcements of a bulletin are the slots that name a place, in order, and each keeps the
text of its slot: the slots are the ranges that stand in the text once its torn times are joined,
and the text of a slot goes up to the next range. Every printed range opens a slot where it stands,
every printed annotation is taken out where it stands, and nothing else is. -/
theorem announcements_keep_text (text : List Char) (date : Date) :
    ∃ preamble slots, Scan slot? (joinTimes text) preamble slots ∧
      (∀ s clocks rest, slot? s = some (clocks, rest) ↔
        ∃ r : PrintedRange, r.IsRange ∧ r.clocks = clocks ∧ s = r.raw ++ rest) ∧
      (∀ s content rest, annotation? s = some (content, rest) ↔
        ∃ printed, IsAnnotation printed content ∧ s = printed ++ rest) ∧
      (∀ slot ∈ slots, ∃ r : PrintedRange,
        r.IsRange ∧ r.raw = slot.printed ∧ r.clocks = slot.value) ∧
      List.Forall₂ (Announces date) (slots.filter fun slot => namesPlace slot.behind)
        (announcements text date) := by
  obtain ⟨slots, scan⟩ := exists_scan takes_slot? (joinTimes text)
  refine ⟨_, slots, scan, fun _ _ _ => slot?_eq_some_iff, fun _ _ _ => annotation?_eq_some_iff,
    ?_, ?_⟩
  · refine scan.forall_found (P := fun printed clocks =>
      ∃ r : PrintedRange, r.IsRange ∧ r.raw = printed ∧ r.clocks = clocks) ?_
    intro s clocks rest read
    obtain ⟨r, isRange, eq, split⟩ := slot?_eq_some read
    exact ⟨r.raw, ⟨r, isRange, rfl, eq⟩, split⟩
  · have read : announcements text date =
        slots.filterMap fun slot => announce? date slot.value slot.behind := by
      rw [announcements, scan.cut_eq, List.filterMap_map]
      rfl
    -- A slot is dropped for want of a place and for nothing else.
    have kept : ∀ slot : Found (PrintedClock × PrintedClock),
        (announce? date slot.value slot.behind).isSome = namesPlace slot.behind :=
      fun slot => announce?_isSome date slot.value slot.behind
    rw [read]
    exact forall₂_filter_filterMap kept (fun _ _ => announces_of_announce?) slots

end RouteAlerts.Bulletin
