import RouteAlerts.Event.Draft
import RouteAlerts.Proofs.Announcement.FirstOccurrence
import RouteAlerts.Proofs.Text.Piece

/-!
Announcements that name tidy places. A merge takes places out but changes none, and leaves out an
announcement that loses them all, so it keeps them tidy; and the event of such an announcement is at
the first place as it is written, never at an unknown one.
-/

namespace RouteAlerts

open Text

namespace Announcement

/-- An announcement names at least one place, and its places are tidy pieces of what its source
prints. -/
structure HasTidyPlaces (isSign : Source → Char → Bool) (a : Announcement) : Prop where
  named : a.places ≠ []
  tidy : ∀ p ∈ a.places, IsTidy (isSign a.source) p.toList

instance (isSign : Source → Char → Bool) (a : Announcement) : Decidable (a.HasTidyPlaces isSign) :=
  decidable_of_iff (a.places ≠ [] ∧ ∀ p ∈ a.places, IsTidy (isSign a.source) p.toList)
    ⟨fun ⟨named, tidy⟩ => ⟨named, tidy⟩, fun h => ⟨h.named, h.tidy⟩⟩

variable {isSign : Source → Char → Bool} {a b : Announcement}

/-! ### Merging -/

/-- What is merged are announcements with some of their places. -/
theorem exists_origin {sources : List (List Announcement)} (h : a ∈ merge sources) :
    a.places ≠ [] ∧ ∃ rows ∈ sources, ∃ b ∈ rows, IsTrimmed a b := by
  rw [merge, mergeFrom_eq] at h
  obtain ⟨member, kept⟩ := List.mem_filter.mp h
  obtain ⟨⟨b, i⟩, hb, rfl⟩ := List.mem_map.mp member
  obtain ⟨rows, hrows, inRows⟩ := List.mem_flatten.mp (List.fst_mem_of_mem_zipIdx hb)
  constructor
  · simpa using kept
  · exact ⟨rows, hrows, b, inRows, rfl, firsts_sublist _ b.places⟩

theorem HasTidyPlaces.of_isTrimmed (h : b.HasTidyPlaces isSign) (trimmed : IsTrimmed a b)
    (kept : a.places ≠ []) : a.HasTidyPlaces isSign := by
  obtain ⟨same, fewer⟩ := trimmed
  have source : a.source = b.source := by rw [same]
  constructor
  · exact kept
  · intro p hp
    rw [source]
    exact h.tidy p (fewer.subset hp)

theorem hasTidyPlaces_of_mem_merge {sources : List (List Announcement)}
    (h : ∀ rows ∈ sources, ∀ b ∈ rows, b.HasTidyPlaces isSign) (merged : a ∈ merge sources) :
    a.HasTidyPlaces isSign := by
  obtain ⟨kept, rows, hrows, b, hb, trimmed⟩ := exists_origin merged
  exact (h rows hrows b hb).of_isTrimmed trimmed kept

/-! ### Drafting -/

/-- The first place is neither trimmed nor skipped when it is drafted. -/
theorem HasTidyPlaces.primaryPlace_eq (h : a.HasTidyPlaces isSign) :
    a.primaryPlace = a.places.head? := by
  obtain ⟨first, rest, places⟩ := List.exists_cons_of_ne_nil h.named
  have tidy := h.tidy first (by rw [places]; exact List.mem_cons_self)
  simp [primaryPlace, places, tidy.trimmed, tidy.nonempty]

/-- The event of an announcement with tidy places is at the first of them. -/
theorem HasTidyPlaces.exists_first (h : a.HasTidyPlaces isSign) :
    ∃ first rest, a.places = first :: rest ∧ a.primaryPlace = some first ∧
      ∀ district point, (a.draft district point).locationName = first := by
  obtain ⟨first, rest, places⟩ := List.exists_cons_of_ne_nil h.named
  have primary : a.primaryPlace = some first := by rw [h.primaryPlace_eq, places, List.head?_cons]
  refine ⟨first, rest, places, primary, fun district point => ?_⟩
  change String.ofList a.locationName = first
  rw [locationName, primary]
  exact String.ofList_toList

end Announcement

end RouteAlerts
