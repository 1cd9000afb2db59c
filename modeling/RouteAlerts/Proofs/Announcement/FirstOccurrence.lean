import RouteAlerts.Announcement.Merge
import RouteAlerts.Proofs.Lists
import Mathlib.Data.List.Nodup

/-!
What a merge keeps. `firsts` picks the elements of a list whose key occurs neither among earlier
keys nor at an element before them. A merge keeps exactly these places, seen over all announcements
in their order: it is a filter with a memory that runs through places, announcements and sources at
once, and the memory holds the keys of all that was read, whether it was kept or not.
-/

namespace RouteAlerts

/-! ### First occurrences -/

section Firsts

variable {α κ : Type} [DecidableEq κ] {key : α → κ}

/-- The elements whose key is neither an earlier one nor the key of an element before them. -/
def firsts (key : α → κ) (earlier : List κ) (l : List α) : List α :=
  (l.zipIdx.filter fun (x, i) => key x ∉ earlier ++ (l.take i).map key).map Prod.fst

@[simp] theorem firsts_nil (earlier : List κ) : firsts key earlier [] = [] := rfl

/-- Only which keys are earlier matters, not their order. -/
theorem firsts_congr {earlier earlier' : List κ} (same : ∀ k, k ∈ earlier ↔ k ∈ earlier')
    (l : List α) : firsts key earlier l = firsts key earlier' l := by
  simp only [firsts, List.mem_append, same]

theorem firsts_cons (earlier : List κ) (x : α) (l : List α) :
    firsts key earlier (x :: l) =
      if key x ∈ earlier then firsts key earlier l else x :: firsts key (key x :: earlier) l := by
  have tail : ∀ e, (∀ k, k ∈ e ↔ k = key x ∨ k ∈ earlier) →
      ((l.zipIdx 1).filter fun (y, i) =>
        key y ∉ earlier ++ ((x :: l).take i).map key).map Prod.fst = firsts key e l := by
    intro e same
    rw [firsts, List.zipIdx_succ, List.filter_map, List.map_map]
    refine congrArg (List.map Prod.fst) (List.filter_congr fun (y, i) _ => ?_)
    simp [same, or_assoc]
    exact Bool.and_left_comm ..
  rw [firsts, List.zipIdx_cons, List.filter_cons]
  by_cases hx : key x ∈ earlier
  · rw [if_neg (by simpa using hx), if_pos hx, tail earlier]
    grind
  · rw [if_pos (by simpa using hx), if_neg hx, List.map_cons, tail (key x :: earlier)]
    simp

/-- First occurrences keep their order. -/
theorem firsts_sublist (earlier : List κ) (l : List α) : (firsts key earlier l).Sublist l := by
  have kept := (List.filter_sublist (p := fun (x, i) =>
    decide (key x ∉ earlier ++ (l.take i).map key)) (l := l.zipIdx)).map Prod.fst
  rwa [List.zipIdx_map_fst] at kept

/-- The keys that are kept are the new ones. -/
theorem mem_map_firsts {earlier : List κ} {l : List α} {k : κ} :
    k ∈ (firsts key earlier l).map key ↔ k ∈ l.map key ∧ k ∉ earlier := by
  induction l generalizing earlier with
  | nil => simp
  | cons x l ih =>
    rw [firsts_cons]
    split
    · rw [ih]
      grind
    · rw [List.map_cons, List.mem_cons, ih]
      grind

/-- No key is kept twice. -/
theorem nodup_map_firsts (earlier : List κ) (l : List α) :
    ((firsts key earlier l).map key).Nodup := by
  induction l generalizing earlier with
  | nil => simp
  | cons x l ih =>
    rw [firsts_cons]
    split
    · exact ih earlier
    · refine List.nodup_cons.mpr ⟨fun again => ?_, ih _⟩
      exact (mem_map_firsts.mp again).2 List.mem_cons_self

/-- To look for first occurrences among first occurrences is to look for them at once, when all keys
that were known before are still known. -/
theorem firsts_firsts {known earlier : List κ} (grown : known ⊆ earlier) (l : List α) :
    firsts key earlier (firsts key known l) = firsts key earlier l := by
  induction l generalizing known earlier with
  | nil => rfl
  | cons x l ih =>
    rw [firsts_cons known, firsts_cons earlier x l]
    by_cases old : key x ∈ known
    · rw [if_pos old, if_pos (grown old)]
      exact ih grown
    · rw [if_neg old, firsts_cons earlier]
      by_cases seen : key x ∈ earlier
      · rw [if_pos seen, if_pos seen]
        exact ih (List.cons_subset.mpr ⟨seen, grown⟩)
      · rw [if_neg seen, if_neg seen, ih (List.cons_subset_cons (key x) grown)]

/-- What occurs first in the second of two lists occurs nowhere in the first one. -/
theorem firsts_append (earlier : List κ) (l l' : List α) :
    firsts key earlier (l ++ l') = firsts key earlier l ++ firsts key (earlier ++ l.map key) l' := by
  induction l generalizing earlier with
  | nil => simp
  | cons x l ih =>
    rw [List.cons_append, firsts_cons, firsts_cons]
    split
    · rename_i seen
      rw [ih]
      exact congrArg _ (firsts_congr (by grind) l')
    · rw [ih, List.cons_append]
      exact congrArg (fun rest => x :: (_ ++ rest)) (firsts_congr (by grind) l')

end Firsts

/-! ### First occurrences of the elements themselves -/

section Elements

variable {α : Type} [DecidableEq α]

theorem mem_firsts {l : List α} {x : α} : x ∈ firsts id [] l ↔ x ∈ l := by
  simpa using @mem_map_firsts α α _ id [] l x

theorem nodup_firsts (l : List α) : (firsts id [] l).Nodup := by
  simpa using @nodup_map_firsts α α _ id [] l

theorem firsts_concat (l : List α) (x : α) :
    firsts id [] (l ++ [x]) = if x ∈ l then firsts id [] l else firsts id [] l ++ [x] := by
  rw [firsts_append, firsts_cons]
  by_cases seen : x ∈ l <;> simp [seen]

/-- Repetitions in front do not change what occurs first. -/
theorem firsts_firsts_append (l l' : List α) :
    firsts id [] (firsts id [] l ++ l') = firsts id [] (l ++ l') := by
  rw [firsts_append, firsts_append, firsts_firsts (List.Subset.refl _)]
  exact congrArg _ (firsts_congr (by simp [mem_firsts]) l')

/-- To keep the new ones among the elements that pass a test, one after the other, is to keep the
first occurrences among all that pass it. -/
theorem foldl_keep_new [BEq α] [LawfulBEq α] (test : α → Bool) (l kept : List α) :
    l.foldl (fun kept x => if test x && !kept.contains x then kept ++ [x] else kept) kept =
      kept ++ firsts id kept (l.filter test) := by
  induction l generalizing kept with
  | nil => simp
  | cons x l ih =>
    rw [List.foldl_cons, ih]
    by_cases passes : test x = true
    · rw [List.filter_cons_of_pos passes, firsts_cons]
      by_cases known : x ∈ kept
      · simp [known]
      · have same : ∀ y, y ∈ kept ++ [x] ↔ y ∈ x :: kept := by simp [or_comm]
        simp [passes, known, firsts_congr same]
    · rw [List.filter_cons_of_neg passes]
      simp [passes]

end Elements

namespace Announcement

/-- The keys of all places of some announcements, in their order. -/
def slotKeys (announcements : List Announcement) : List (List Char) :=
  announcements.flatMap fun a => a.places.map a.slotKey

@[simp] theorem slotKeys_nil : slotKeys [] = [] := rfl

@[simp] theorem slotKeys_cons (a : Announcement) (rest : List Announcement) :
    slotKeys (a :: rest) = a.places.map a.slotKey ++ slotKeys rest := rfl

/-- The places of an announcement that are new after some keys, with all keys then seen. -/
theorem unseen_eq (a : Announcement) (seen : List (List Char)) (places : List String) :
    (a.unseen seen places).1 = firsts a.slotKey seen places ∧
      ∀ k, k ∈ (a.unseen seen places).2 ↔ k ∈ seen ∨ k ∈ places.map a.slotKey := by
  induction places generalizing seen with
  | nil => simp [unseen]
  | cons place places ih =>
    rw [unseen, firsts_cons]
    by_cases known : a.slotKey place ∈ seen
    · obtain ⟨kept, all⟩ := ih seen
      simp only [List.contains_iff_mem, known, if_true]
      refine ⟨kept, fun k => ?_⟩
      rw [all]
      grind
    · obtain ⟨kept, all⟩ := ih (a.slotKey place :: seen)
      simp only [List.contains_iff_mem, known, if_false]
      refine ⟨congrArg (place :: ·) kept, fun k => ?_⟩
      rw [all]
      grind

/-- The announcements with the places that are new after some keys, those of earlier announcements
among them. -/
def withFirsts (earlier : List (List Char)) (announcements : List Announcement) :
    List Announcement :=
  announcements.zipIdx.map fun (a, i) =>
    { a with places := firsts a.slotKey (earlier ++ slotKeys (announcements.take i)) a.places }

theorem withFirsts_cons (earlier : List (List Char)) (a : Announcement)
    (rest : List Announcement) :
    withFirsts earlier (a :: rest) =
      { a with places := firsts a.slotKey earlier a.places } ::
        withFirsts (earlier ++ a.places.map a.slotKey) rest := by
  simp [withFirsts, List.zipIdx_succ]

theorem withFirsts_congr {earlier earlier' : List (List Char)}
    (same : ∀ k, k ∈ earlier ↔ k ∈ earlier') (announcements : List Announcement) :
    withFirsts earlier announcements = withFirsts earlier' announcements := by
  refine List.map_congr_left fun (a, i) _ => ?_
  have places : firsts a.slotKey (earlier ++ slotKeys (announcements.take i)) a.places =
      firsts a.slotKey (earlier' ++ slotKeys (announcements.take i)) a.places :=
    firsts_congr (by simp [same]) a.places
  simp only [places]

/-- A merge leaves out the announcements that keep no place. -/
theorem mergeFrom_eq (seen : List (List Char)) (announcements : List Announcement) :
    mergeFrom seen announcements =
      (withFirsts seen announcements).filter fun a => !a.places.isEmpty := by
  induction announcements generalizing seen with
  | nil => rfl
  | cons a rest ih =>
    obtain ⟨kept, all⟩ := a.unseen_eq seen a.places
    have later : withFirsts (seen ++ a.places.map a.slotKey) rest =
        withFirsts (a.unseen seen a.places).2 rest := withFirsts_congr (by simp [all]) rest
    rw [mergeFrom, withFirsts_cons, later, List.filter_cons]
    simp only [kept, ih]
    cases firsts a.slotKey seen a.places <;> rfl

/-- An announcement without places has no keys. -/
theorem slotKeys_filter (announcements : List Announcement) :
    slotKeys (announcements.filter fun a => !a.places.isEmpty) = slotKeys announcements := by
  induction announcements with
  | nil => rfl
  | cons a rest ih =>
    rw [List.filter_cons]
    split
    · rw [slotKeys_cons, slotKeys_cons, ih]
    · rename_i empty
      have none : a.places = [] := by simpa using empty
      rw [slotKeys_cons, none, ih]
      rfl

/-- The keys that are kept are the new ones. -/
theorem mem_slotKeys_withFirsts {earlier : List (List Char)} {announcements : List Announcement}
    {k : List Char} :
    k ∈ slotKeys (withFirsts earlier announcements) ↔
      k ∈ slotKeys announcements ∧ k ∉ earlier := by
  induction announcements generalizing earlier with
  | nil => simp [withFirsts]
  | cons a rest ih =>
    have head : k ∈ (firsts a.slotKey earlier a.places).map a.slotKey ↔
        k ∈ a.places.map a.slotKey ∧ k ∉ earlier := mem_map_firsts
    rw [withFirsts_cons, slotKeys_cons, slotKeys_cons, List.mem_append, List.mem_append, ih]
    change k ∈ (firsts a.slotKey earlier a.places).map a.slotKey ∨ _ ↔ _
    rw [head, List.mem_append]
    grind

/-- No key is kept twice, neither in one announcement nor in two. -/
theorem nodup_slotKeys_withFirsts (earlier : List (List Char))
    (announcements : List Announcement) :
    (slotKeys (withFirsts earlier announcements)).Nodup := by
  induction announcements generalizing earlier with
  | nil => simp [withFirsts]
  | cons a rest ih =>
    rw [withFirsts_cons, slotKeys_cons]
    refine List.nodup_append.mpr ⟨nodup_map_firsts earlier a.places, ih _, ?_⟩
    rintro k own _ later rfl
    have new := (mem_slotKeys_withFirsts.mp later).2
    have mine := (mem_map_firsts.mp own).1
    exact new (List.mem_append_right _ mine)

/-- An announcement with fewer places: the places are some of the other's, in order, and nothing
else differs. -/
def IsTrimmed (a b : Announcement) : Prop :=
  a = { b with places := a.places } ∧ a.places.Sublist b.places

theorem isTrimmed_withFirsts (earlier : List (List Char)) (announcements : List Announcement) :
    List.Forall₂ IsTrimmed (withFirsts earlier announcements) announcements := by
  induction announcements generalizing earlier with
  | nil => exact .nil
  | cons a rest ih =>
    rw [withFirsts_cons]
    exact .cons ⟨rfl, firsts_sublist earlier a.places⟩ (ih _)

/-- A merge keeps exactly the places whose key occurs at no place before them, in the order in which
all sources announce them, and leaves out the announcements that keep none. So every key that is
announced is kept at one place, and each announcement that is left is one of those that came in, in
their order, with some of its places in their order and at least one of them. -/
theorem merge_keeps_firsts (sources : List (List Announcement)) :
    merge sources =
        (sources.flatten.zipIdx.map fun (a, i) =>
          { a with
            places := firsts a.slotKey (slotKeys (sources.flatten.take i)) a.places }).filter
          (fun a => !a.places.isEmpty) ∧
      (slotKeys (merge sources)).Nodup ∧
      (∀ k, k ∈ slotKeys (merge sources) ↔ k ∈ slotKeys sources.flatten) ∧
      (∀ a ∈ merge sources, a.places ≠ []) ∧
      ∃ origins, origins.Sublist sources.flatten ∧
        List.Forall₂ IsTrimmed (merge sources) origins := by
  have kept : merge sources = (withFirsts [] sources.flatten).filter fun a => !a.places.isEmpty :=
    mergeFrom_eq [] sources.flatten
  have keys : slotKeys (merge sources) = slotKeys (withFirsts [] sources.flatten) := by
    rw [kept, slotKeys_filter]
  refine ⟨kept, ?_, fun k => ?_, fun a ha => ?_, ?_⟩
  · rw [keys]
    exact nodup_slotKeys_withFirsts [] sources.flatten
  · rw [keys, mem_slotKeys_withFirsts]
    simp
  · rw [kept] at ha
    simpa using (List.mem_filter.mp ha).2
  · rw [kept]
    exact exists_sublist_of_forall₂_filter _ (isTrimmed_withFirsts [] sources.flatten)

end Announcement

end RouteAlerts
