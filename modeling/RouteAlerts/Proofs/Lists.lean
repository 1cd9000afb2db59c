import Mathlib.Data.List.Forall2

/-!
Lists: what is read item by item, what two lists that correspond to each other have in common, and
what a filter leaves.
-/

namespace RouteAlerts

variable {α β : Type}

/-! ### Read item by item -/

section Read

/-- A list is read as another one when its items are read as the items of the other one. -/
theorem mapM_eq_some_iff {read : α → Option β} {Is : α → β → Prop}
    (spec : ∀ a b, read a = some b ↔ Is a b) {l : List α} {bs : List β} :
    l.mapM read = some bs ↔ List.Forall₂ Is l bs := by
  induction l generalizing bs with
  | nil => simp [eq_comm]
  | cons a l ih =>
    simp only [List.mapM_cons, Option.bind_eq_bind, Option.bind_eq_some_iff, Option.pure_def,
      Option.some.injEq, List.forall₂_cons_left_iff, spec, ih]
    constructor
    · rintro ⟨b, own, bs, others, rfl⟩
      exact ⟨b, bs, own, others, rfl⟩
    · rintro ⟨b, bs, own, others, rfl⟩
      exact ⟨b, own, bs, others, rfl⟩

/-- A list is read when each of its items is. -/
theorem exists_mapM_iff {read : α → Option β} {l : List α} :
    (∃ bs, l.mapM read = some bs) ↔ ∀ a ∈ l, ∃ b, read a = some b := by
  induction l with
  | nil => simp
  | cons a l ih =>
    rw [List.forall_mem_cons, ← ih]
    simp only [List.mapM_cons, Option.bind_eq_bind, Option.bind_eq_some_iff, Option.pure_def,
      Option.some.injEq]
    constructor
    · rintro ⟨_, b, own, bs, others, rfl⟩
      exact ⟨⟨b, own⟩, bs, others⟩
    · rintro ⟨⟨b, own⟩, bs, others⟩
      exact ⟨_, b, own, bs, others, rfl⟩

/-- Keys that are all read as something that belongs to their items. -/
theorem exists_mapM {γ : Type} {key : α → β} {read : β → Option γ} {R : γ → α → Prop}
    {l : List α} (readable : ∀ a ∈ l, ∃ c, read (key a) = some c ∧ R c a) :
    ∃ cs, (l.map key).mapM read = some cs ∧ List.Forall₂ R cs l := by
  induction l with
  | nil => exact ⟨[], rfl, .nil⟩
  | cons a l ih =>
    obtain ⟨c, reads, related⟩ := readable a List.mem_cons_self
    obtain ⟨cs, readsAll, relatedAll⟩ := ih fun b hb => readable b (List.mem_cons_of_mem _ hb)
    exact ⟨c :: cs, by simp [reads, readsAll], .cons related relatedAll⟩

/-- Items that are all read, each as something or as nothing, of which the first that is something
is this. -/
theorem exists_mapM_findSome?_iff {read : α → Option (Option β)} {l : List α} {b : β} :
    (∃ found, l.mapM read = some found ∧ found.findSome? id = some b) ↔
      ∃ before a after, l = before ++ a :: after ∧ (∀ x ∈ before, read x = some none) ∧
        read a = some (some b) ∧ ∀ x ∈ after, ∃ any, read x = some any := by
  induction l with
  | nil => simp
  | cons a l ih =>
    constructor
    · rintro ⟨found, readAll, first⟩
      obtain ⟨any, own, later, readLater, rfl⟩ : ∃ any, read a = some any ∧
          ∃ later, l.mapM read = some later ∧ any :: later = found := by
        simpa [List.mapM_cons, Option.bind_eq_some_iff] using readAll
      cases any with
      | none =>
        obtain ⟨before, hit, after, rfl, without, readHit, others⟩ :=
          ih.mp ⟨later, readLater, first⟩
        exact ⟨a :: before, hit, after, rfl, List.forall_mem_cons.mpr ⟨own, without⟩, readHit,
          others⟩
      | some c =>
        obtain rfl : c = b := by simpa using first
        exact ⟨[], a, l, rfl, by simp, own, exists_mapM_iff.mp ⟨later, readLater⟩⟩
    · rintro ⟨before, hit, after, eq, without, readHit, others⟩
      cases before with
      | nil =>
        obtain ⟨rfl, rfl⟩ := List.cons.inj eq
        obtain ⟨later, readLater⟩ := exists_mapM_iff.mpr others
        exact ⟨some b :: later, by simp [List.mapM_cons, readHit, readLater], rfl⟩
      | cons c before =>
        obtain ⟨rfl, tail⟩ := List.cons.inj eq
        obtain ⟨own, without⟩ := List.forall_mem_cons.mp without
        obtain ⟨later, readLater, first⟩ :=
          ih.mpr ⟨before, hit, after, tail, without, readHit, others⟩
        exact ⟨none :: later, by simp [List.mapM_cons, own, readLater], first⟩

end Read

/-! ### Lists that correspond to each other -/

section Related

variable {R : α → β → Prop} {l : List α} {m : List β}

/-- What is made of some elements corresponds to these elements. -/
theorem forall₂_filter_filterMap {p : α → Bool} {f : α → Option β}
    (kept : ∀ a, (f a).isSome = p a) (related : ∀ a b, f a = some b → R a b) (l : List α) :
    List.Forall₂ R (l.filter p) (l.filterMap f) := by
  induction l with
  | nil => exact .nil
  | cons a l ih =>
    cases h : f a with
    | none =>
      have out : p a = false := by rw [← kept, h]; rfl
      rwa [List.filterMap_cons_none h, List.filter_cons_of_neg (by simp [out])]
    | some b =>
      have stays : p a = true := by rw [← kept, h]; rfl
      rw [List.filterMap_cons_some h, List.filter_cons_of_pos stays]
      exact .cons (related a b h) ih

/-- A filter on one of the lists leaves out the same elements of both. -/
theorem exists_sublist_of_forall₂_filter (p : α → Bool) (h : List.Forall₂ R l m) :
    ∃ m', m'.Sublist m ∧ List.Forall₂ R (l.filter p) m' := by
  induction h with
  | nil => exact ⟨[], .slnil, .nil⟩
  | @cons a b l m hab _ ih =>
    obtain ⟨m', sub, rel⟩ := ih
    rw [List.filter_cons]
    split
    · exact ⟨b :: m', sub.cons_cons b, .cons hab rel⟩
    · exact ⟨m', sub.cons b, rel⟩

/-- What holds between any two elements of a list holds of what corresponds to them. -/
theorem pairwise_of_forall₂ {S : β → β → Prop} {T : α → α → Prop}
    (carries : ∀ {a a' b b'}, R a b → R a' b' → S b b' → T a a') (related : List.Forall₂ R l m)
    (pairs : m.Pairwise S) : l.Pairwise T := by
  have length := related.length_eq
  rw [List.pairwise_iff_getElem] at pairs ⊢
  intro i j hi hj order
  exact carries (related.get hi (length ▸ hi)) (related.get hj (length ▸ hj))
    (pairs i j (length ▸ hi) (length ▸ hj) order)

end Related

/-! ### What a filter leaves -/

section Filter

variable {p q r : α → Bool} {l : List α}

/-- A change of elements that a filter leaves out before and after does not show in the rest. -/
theorem filter_map_eq_filter {change : α → α}
    (h : ∀ x ∈ l, change x = x ∨ p (change x) = false ∧ p x = false) :
    (l.map change).filter p = l.filter p := by
  induction l with
  | nil => rfl
  | cons x l ih =>
    have rest := ih fun y hy => h y (List.mem_cons_of_mem _ hy)
    rw [List.map_cons, List.filter_cons, List.filter_cons, rest]
    rcases h x List.mem_cons_self with same | ⟨after, before⟩
    · rw [same]
    · simp [after, before]

/-- What two properties that exclude each other count is what their disjunction counts. -/
theorem countP_add_countP
    (h : ∀ x ∈ l, (r x = true ↔ p x = true ∨ q x = true) ∧ ¬ (p x = true ∧ q x = true)) :
    l.countP p + l.countP q = l.countP r := by
  induction l with
  | nil => rfl
  | cons x l ih =>
    have rest := ih fun y hy => h y (List.mem_cons_of_mem _ hy)
    obtain ⟨either, apart⟩ := h x List.mem_cons_self
    simp only [List.countP_cons]
    by_cases hp : p x = true
    · have hq : ¬ q x = true := fun hq => apart ⟨hp, hq⟩
      rw [if_pos hp, if_neg hq, if_pos (either.mpr (.inl hp))]
      omega
    · by_cases hq : q x = true
      · rw [if_neg hp, if_pos hq, if_pos (either.mpr (.inr hq))]
        omega
      · have hr : ¬ r x = true := fun hr => (either.mp hr).elim hp hq
        rw [if_neg hp, if_neg hq, if_neg hr]
        omega

end Filter

end RouteAlerts
