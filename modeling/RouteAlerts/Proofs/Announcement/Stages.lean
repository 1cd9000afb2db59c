import RouteAlerts.Proofs.Announcement.FirstOccurrence
import RouteAlerts.Proofs.Calendar.DayNumber

/-!
Merging in stages. A merge that follows another one knows every key that the first one knew, so it
would itself have taken out whatever the first one took out (`mergeFrom_mergeFrom`). Sources may
therefore be merged part by part, a merge of what is merged already changes nothing, and which keys
are kept does not depend on the order of the sources (`merge_in_stages`).
-/

namespace RouteAlerts

namespace Announcement

variable {known earlier : List (List Char)}

/-! ### One pass and two -/

theorem withFirsts_append (earlier : List (List Char)) (xs ys : List Announcement) :
    withFirsts earlier (xs ++ ys) =
      withFirsts earlier xs ++ withFirsts (earlier ++ slotKeys xs) ys := by
  induction xs generalizing earlier with
  | nil => simp [withFirsts]
  | cons a xs ih =>
    rw [List.cons_append, withFirsts_cons, withFirsts_cons, ih, slotKeys_cons, List.append_assoc,
      List.cons_append]

theorem withFirsts_withFirsts (grown : known ⊆ earlier) (announcements : List Announcement) :
    withFirsts earlier (withFirsts known announcements) = withFirsts earlier announcements := by
  induction announcements generalizing known earlier with
  | nil => rfl
  | cons a rest ih =>
    -- The places that are left have the keys of the announcement that were not known, and the
    -- known ones are among the earlier ones anyway.
    have keys : ∀ k, k ∈ earlier ++ (firsts a.slotKey known a.places).map a.slotKey ↔
        k ∈ earlier ++ a.places.map a.slotKey := by
      intro k
      rw [List.mem_append, List.mem_append, mem_map_firsts]
      constructor
      · rintro (old | ⟨own, -⟩)
        · exact .inl old
        · exact .inr own
      · rintro (old | own)
        · exact .inl old
        · by_cases new : k ∈ known
          · exact .inl (grown new)
          · exact .inr ⟨own, new⟩
    have later : known ++ a.places.map a.slotKey ⊆ earlier ++ a.places.map a.slotKey :=
      List.append_subset.mpr
        ⟨List.subset_append_of_subset_left _ grown, List.subset_append_right ..⟩
    rw [withFirsts_cons known, withFirsts_cons, withFirsts_cons]
    refine congrArg₂ List.cons ?_ ?_
    · change { a with places := firsts a.slotKey earlier (firsts a.slotKey known a.places) } = _
      rw [firsts_firsts grown]
    · rw [← ih later]
      exact withFirsts_congr keys _

/-! ### Merges -/

theorem mergeFrom_congr (same : ∀ k, k ∈ known ↔ k ∈ earlier) (announcements : List Announcement) :
    mergeFrom known announcements = mergeFrom earlier announcements := by
  rw [mergeFrom_eq, mergeFrom_eq, withFirsts_congr same]

/-- What is merged first, its keys seen, does not depend on what comes after it. -/
theorem mergeFrom_append (earlier : List (List Char)) (xs ys : List Announcement) :
    mergeFrom earlier (xs ++ ys) =
      mergeFrom earlier xs ++ mergeFrom (earlier ++ slotKeys xs) ys := by
  simp only [mergeFrom_eq, withFirsts_append, List.filter_append]

/-- An announcement without places leaves no trace in a merge. -/
theorem mergeFrom_filter (earlier : List (List Char)) (announcements : List Announcement) :
    mergeFrom earlier (announcements.filter fun a => !a.places.isEmpty) =
      mergeFrom earlier announcements := by
  induction announcements generalizing earlier with
  | nil => rfl
  | cons a rest ih =>
    rw [List.filter_cons]
    cases places : a.places with
    | nil => simp [mergeFrom, places, unseen, ih]
    | cons place others => simp [mergeFrom, ih]

/-- A merge of merged announcements is the merge of them as they were announced, when all keys that
were known before are still known. -/
theorem mergeFrom_mergeFrom (grown : known ⊆ earlier) (announcements : List Announcement) :
    mergeFrom earlier (mergeFrom known announcements) = mergeFrom earlier announcements := by
  rw [mergeFrom_eq known, mergeFrom_filter, mergeFrom_eq, withFirsts_withFirsts grown,
    ← mergeFrom_eq]

/-- The keys that a merge keeps are all that are announced. -/
theorem mem_slotKeys_merge {sources : List (List Announcement)} {k : List Char} :
    k ∈ slotKeys (merge sources) ↔ k ∈ slotKeys sources.flatten := by
  rw [merge, mergeFrom_eq, slotKeys_filter, mem_slotKeys_withFirsts]
  simp

theorem nodup_slotKeys_merge (sources : List (List Announcement)) :
    (slotKeys (merge sources)).Nodup := by
  rw [merge, mergeFrom_eq, slotKeys_filter]
  exact nodup_slotKeys_withFirsts [] sources.flatten

theorem merge_append (sources others : List (List Announcement)) :
    merge (sources ++ others) = merge [merge sources, merge others] := by
  have kept : ∀ k, k ∈ [] ++ slotKeys sources.flatten ↔ k ∈ [] ++ slotKeys (merge sources) := by
    intro k
    rw [List.nil_append, List.nil_append, mem_slotKeys_merge]
  calc merge (sources ++ others)
    _ = mergeFrom [] (sources.flatten ++ others.flatten) := by rw [merge, List.flatten_append]
    _ = mergeFrom [] sources.flatten ++
          mergeFrom ([] ++ slotKeys sources.flatten) others.flatten := mergeFrom_append ..
    _ = mergeFrom [] (merge sources) ++
          mergeFrom ([] ++ slotKeys (merge sources)) (merge others) := by
      rw [merge, merge, mergeFrom_mergeFrom (List.Subset.refl []),
        mergeFrom_mergeFrom (List.nil_subset _), mergeFrom_congr kept]
      rfl
    _ = mergeFrom [] (merge sources ++ merge others) := (mergeFrom_append ..).symm
    _ = merge [merge sources, merge others] := by simp [merge]

/-- Sources may be merged in parts and the results merged again, whatever repeats within a part and
across them. To merge once more changes nothing. Only the order of the announcements counts, not in
which sources they stand. Every key that is announced is kept; so whatever the order of the sources,
the same keys are kept, each once. -/
theorem merge_in_stages (sources others : List (List Announcement)) :
    merge (sources ++ others) = merge [merge sources, merge others] ∧
      merge [merge sources] = merge sources ∧
      (sources.flatten = others.flatten → merge sources = merge others) ∧
      (∀ k, k ∈ slotKeys (merge sources) ↔ k ∈ slotKeys sources.flatten) ∧
      (sources.Perm others → (slotKeys (merge sources)).Perm (slotKeys (merge others))) := by
  refine ⟨merge_append sources others, ?_, ?_, fun k => mem_slotKeys_merge, ?_⟩
  · have again : merge [merge sources] = mergeFrom [] (merge sources) := by
      rw [merge, List.flatten_cons, List.flatten_nil, List.append_nil]
    rw [again, merge, mergeFrom_mergeFrom (List.Subset.refl [])]
  · intro regrouped
    rw [merge, merge, regrouped]
  · intro reordered
    have announced : (slotKeys sources.flatten).Perm (slotKeys others.flatten) :=
      reordered.flatten.flatMap_right _
    refine (List.perm_ext_iff_of_nodup (nodup_slotKeys_merge _) (nodup_slotKeys_merge _)).mpr ?_
    intro k
    rw [mem_slotKeys_merge, mem_slotKeys_merge, announced.mem_iff]

/-- A slot of the sample day at ten in the morning. -/
def sampleSlot (source : Source) (places : List String) : Announcement :=
  ⟨source, Date.sample, "10:00", "12:00", places, none, none, none⟩

/-- Two sources announce one place under two spellings. Who comes first keeps it, but the keys are
the same, and it does not matter whether the two slots stand in one source or in two. -/
theorem merge_in_stages_sample :
    let board := sampleSlot .primaryBoard ["광화문", "시청", "광화문"]
    let table := sampleSlot .secondarySystem ["시청 앞", "서울역"]
    (merge [[board], [table]]).map (·.places) = [["광화문", "시청"], ["서울역"]] ∧
      (merge [[table], [board]]).map (·.places) = [["시청 앞", "서울역"], ["광화문"]] ∧
      (slotKeys (merge [[board], [table]])).Perm (slotKeys (merge [[table], [board]])) ∧
      merge [[board], [table]] = merge [[board, table]] := by
  intro board table
  refine ⟨by decide +kernel, by decide +kernel, ?_, ?_⟩
  · exact (merge_in_stages [[board], [table]] [[table], [board]]).2.2.2.2 (List.Perm.swap ..)
  · exact (merge_in_stages [[board], [table]] [[board, table]]).2.2.1 rfl

end Announcement

end RouteAlerts
