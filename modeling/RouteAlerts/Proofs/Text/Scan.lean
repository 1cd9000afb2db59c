import RouteAlerts.Text.Split

/-!
Scanning a text with a reader. `Scan` says what the leftmost, non-overlapping matches of a reader
are: stretches in which no match starts, and a match between any two of them. `cut` computes it for
every reader that takes something (`exists_scan`, `Scan.cut_eq`), so a scan loses no character
(`Scan.eq_append`).
-/

namespace RouteAlerts.Text

section Scan

variable {α : Type} {r : Reader α}

/-! ### Stretches without a match -/

/-- No match starts inside a text with something else behind it. -/
def Silent (r : Reader α) (s rest : List Char) : Prop :=
  ∀ t, t <:+ s → t ≠ [] → r (t ++ rest) = none

@[simp] theorem silent_nil (rest : List Char) : Silent r [] rest :=
  fun _ suffix nonempty => absurd (List.suffix_nil.mp suffix) nonempty

theorem silent_cons {c : Char} {s rest : List Char} :
    Silent r (c :: s) rest ↔ r (c :: s ++ rest) = none ∧ Silent r s rest := by
  constructor
  · exact fun h => ⟨h _ List.suffix_rfl (List.cons_ne_nil c s),
      fun t suffix => h t (suffix.trans (List.suffix_cons c s))⟩
  · rintro ⟨head, tail⟩ t suffix nonempty
    rcases List.suffix_cons_iff.mp suffix with rfl | suffix
    · exact head
    · exact tail t suffix nonempty

theorem Silent.append {s t rest : List Char} (hs : Silent r s (t ++ rest))
    (ht : Silent r t rest) : Silent r (s ++ t) rest := by
  induction s with
  | nil => exact ht
  | cons c s ih =>
    obtain ⟨head, tail⟩ := silent_cons.mp hs
    refine silent_cons.mpr ⟨?_, ih tail⟩
    simpa using head

/-- Characters at which no match starts make a stretch without a match. -/
theorem silent_of_heads {p : Char → Bool} {s rest : List Char}
    (misses : ∀ c t, p c = false → r (c :: t) = none) (all : ∀ c ∈ s, p c = false) :
    Silent r s rest := by
  intro t suffix nonempty
  obtain ⟨c, t, rfl⟩ := List.exists_cons_of_ne_nil nonempty
  exact misses c (t ++ rest) (all c (suffix.subset List.mem_cons_self))

/-- A reader that matches less often has longer stretches without a match. -/
theorem Silent.mono {β : Type} {r' : Reader β} {s rest : List Char} (h : Silent r s rest)
    (misses : ∀ t, r t = none → r' t = none) : Silent r' s rest :=
  fun t suffix nonempty => misses _ (h t suffix nonempty)

theorem cut_silent {s rest : List Char} (h : Silent r s rest) :
    cut r (s ++ rest) = (s ++ (cut r rest).1, (cut r rest).2) := by
  induction s with
  | nil => rfl
  | cons c s ih =>
    obtain ⟨head, tail⟩ := silent_cons.mp h
    rw [List.cons_append, cut, ← List.cons_append, head]
    simp [ih tail]

theorem firstMatch_silent {s rest : List Char} (h : Silent r s rest) :
    firstMatch r (s ++ rest) =
      (firstMatch r rest).map fun (gap, a, tail) => (s ++ gap, a, tail) := by
  induction s with
  | nil => simp
  | cons c s ih =>
    obtain ⟨head, tail⟩ := silent_cons.mp h
    rw [List.cons_append, firstMatch, ← List.cons_append, head]
    simp only [ih tail, Option.map_map]
    rfl

/-! ### Matches -/

/-- A match that takes something starts a new stretch behind it. -/
theorem cut_match {a : α} {printed rest : List Char} (nonempty : printed ≠ [])
    (h : r (printed ++ rest) = some (a, rest)) :
    cut r (printed ++ rest) = ([], (a, (cut r rest).1) :: (cut r rest).2) := by
  obtain ⟨c, s, rfl⟩ := List.exists_cons_of_ne_nil nonempty
  have shorter : rest.length < (c :: (s ++ rest)).length := by
    simp only [List.length_cons, List.length_append]
    omega
  rw [List.cons_append] at h ⊢
  rw [cut, h]
  simp only [shorter, dif_pos]

theorem firstMatch_match {a : α} {printed rest : List Char} (nonempty : printed ≠ [])
    (h : r (printed ++ rest) = some (a, rest)) :
    firstMatch r (printed ++ rest) = some ([], a, rest) := by
  obtain ⟨c, s, rfl⟩ := List.exists_cons_of_ne_nil nonempty
  rw [List.cons_append] at h ⊢
  rw [firstMatch, h]

theorem substitute_silent {f : α → List Char} {s rest : List Char} (h : Silent r s rest) :
    substitute r f (s ++ rest) = s ++ substitute r f rest := by
  simp [substitute, cut_silent h]

theorem substitute_match {f : α → List Char} {a : α} {printed rest : List Char}
    (nonempty : printed ≠ []) (h : r (printed ++ rest) = some (a, rest)) :
    substitute r f (printed ++ rest) = f a ++ substitute r f rest := by
  simp [substitute, cut_match nonempty h]

/-- A first match has no match starting before it. -/
theorem firstMatch_eq_some_iff {s gap rest : List Char} {a : α} :
    firstMatch r s = some (gap, a, rest) ↔
      ∃ t, t ≠ [] ∧ s = gap ++ t ∧ r t = some (a, rest) ∧ Silent r gap t := by
  constructor
  · intro h
    induction s generalizing gap with
    | nil => cases h
    | cons c s ih =>
      rw [firstMatch] at h
      split at h
      · rename_i read
        obtain ⟨rfl, rfl, rfl⟩ : [] = gap ∧ _ = a ∧ _ = rest := by simpa using h
        exact ⟨c :: s, List.cons_ne_nil c s, rfl, read, silent_nil _⟩
      · rename_i none
        obtain ⟨⟨gap', a', rest'⟩, later, eq⟩ := Option.map_eq_some_iff.mp h
        obtain ⟨rfl, rfl, rfl⟩ : c :: gap' = gap ∧ a' = a ∧ rest' = rest := by simpa using eq
        obtain ⟨t, nonempty, rfl, read, silent⟩ := ih later
        exact ⟨t, nonempty, rfl, read, silent_cons.mpr ⟨none, silent⟩⟩
  · rintro ⟨t, nonempty, rfl, read, silent⟩
    obtain ⟨c, t, rfl⟩ := List.exists_cons_of_ne_nil nonempty
    rw [firstMatch_silent silent, firstMatch, read]
    simp

/-- Without a first match there is none. -/
theorem firstMatch_eq_none_iff {s : List Char} : firstMatch r s = none ↔ Silent r s [] := by
  induction s with
  | nil => exact iff_of_true rfl (silent_nil [])
  | cons c s ih =>
    rw [silent_cons, List.append_nil, ← ih, firstMatch]
    cases r (c :: s) with
    | none => simp
    | some found => simp

/-- What comes before a first match is passed over, and the match stands right behind it. -/
theorem firstMatch_eq_some {s gap rest : List Char} {a : α}
    (h : firstMatch r s = some (gap, a, rest)) : ∃ t, s = gap ++ t ∧ r t = some (a, rest) := by
  obtain ⟨t, -, split, read, -⟩ := firstMatch_eq_some_iff.mp h
  exact ⟨t, split, read⟩

/-- A reader whose matches do not reach from the first half of a text into the second finds its
first match in the first half, or else in the second. -/
theorem firstMatch_append {rest : List Char}
    (apart : ∀ t, t ≠ [] → r (t ++ rest) = (r t).map fun (a, behind) => (a, behind ++ rest))
    (s : List Char) : firstMatch r (s ++ rest) =
      ((firstMatch r s).map fun (gap, a, behind) => (gap, a, behind ++ rest)).or
        ((firstMatch r rest).map fun (gap, a, behind) => (s ++ gap, a, behind)) := by
  induction s with
  | nil => simp [firstMatch]
  | cons c s ih =>
    have front := apart (c :: s) (List.cons_ne_nil c s)
    rw [List.cons_append] at front
    rw [List.cons_append, firstMatch, firstMatch, front, ih]
    cases found : r (c :: s) with
    | some hit => rfl
    | none =>
      cases firstMatch r s with
      | some later => rfl
      | none =>
        cases firstMatch r rest with
        | some later => rfl
        | none => rfl

/-- Matches that are replaced by what was taken leave the text as it is. -/
theorem substitute_eq_self {f : α → List Char}
    (taken : ∀ s a rest, r s = some (a, rest) → s = f a ++ rest) (s : List Char) :
    substitute r f s = s := by
  unfold substitute
  fun_induction cut r s with
  | case1 => rfl
  | case2 c s a rest read shorter gap found eq ih =>
    rw [eq] at ih
    rw [taken _ _ _ read]
    simpa using congrArg (f a ++ ·) ih
  | case3 c s a rest read longer gap found eq ih =>
    rw [eq] at ih
    simpa using ih
  | case4 c s read gap found eq ih =>
    rw [eq] at ih
    simpa using ih

/-! ### Scans -/

/-- A match with the text that was taken and the text behind it, up to the next match. -/
structure Found (α : Type) where
  value : α
  printed : List Char
  behind : List Char

/-- The leftmost, non-overlapping matches of a reader: the text before the first of them and the
matches in order. -/
inductive Scan (r : Reader α) : List Char → List Char → List (Found α) → Prop where
  | last {gap : List Char} : Silent r gap [] → Scan r gap gap []
  | next {gap printed text behind : List Char} {value : α} {found : List (Found α)} :
      Silent r gap (printed ++ text) → printed ≠ [] →
      r (printed ++ text) = some (value, text) → Scan r text behind found →
      Scan r (gap ++ (printed ++ text)) gap (⟨value, printed, behind⟩ :: found)

/-- The text of some matches, each with what is behind it. -/
def shown (found : List (Found α)) : List Char := found.flatMap fun f => f.printed ++ f.behind

@[simp] theorem shown_nil : shown ([] : List (Found α)) = [] := rfl

@[simp] theorem shown_cons (f : Found α) (found : List (Found α)) :
    shown (f :: found) = f.printed ++ (f.behind ++ shown found) := by
  simp [shown]

@[simp] theorem shown_append (found others : List (Found α)) :
    shown (found ++ others) = shown found ++ shown others :=
  List.flatMap_append

/-- A scan loses nothing. -/
theorem Scan.eq_append {s gap : List Char} {found : List (Found α)} (h : Scan r s gap found) :
    s = gap ++ shown found := by
  induction h with
  | last _ => simp
  | next _ _ _ _ ih => simp [← ih]

theorem Scan.cut_eq {s gap : List Char} {found : List (Found α)} (h : Scan r s gap found) :
    cut r s = (gap, found.map fun f => (f.value, f.behind)) := by
  induction h with
  | @last gap silent =>
    have whole := cut_silent silent
    rw [List.append_nil] at whole
    simp [whole, cut]
  | next silent nonempty read _ ih =>
    rw [cut_silent silent, cut_match nonempty read, ih]
    simp

/-- A match of a scan is read where it stands. -/
theorem Scan.read_found {s gap : List Char} {earlier later : List (Found α)} {f : Found α}
    (h : Scan r s gap (earlier ++ f :: later)) :
    f.printed ≠ [] ∧ r (f.printed ++ (f.behind ++ shown later)) =
      some (f.value, f.behind ++ shown later) := by
  induction earlier generalizing s gap with
  | nil =>
    cases h with
    | next _ nonempty read rest =>
      rw [rest.eq_append] at read
      exact ⟨nonempty, read⟩
  | cons g earlier ih =>
    cases h with
    | next _ _ _ rest => exact ih rest

/-- What a reader takes is what is found. -/
theorem Scan.forall_found {P : List Char → α → Prop} {s gap : List Char} {found : List (Found α)}
    (h : Scan r s gap found)
    (takes : ∀ s a rest, r s = some (a, rest) → ∃ printed, P printed a ∧ s = printed ++ rest) :
    ∀ f ∈ found, P f.printed f.value := by
  induction h with
  | last _ => simp
  | next _ _ read _ ih =>
    intro f hf
    rcases List.mem_cons.mp hf with rfl | later
    · obtain ⟨printed, taken, split⟩ := takes _ _ _ read
      rwa [List.append_cancel_right split]
    · exact ih f later

/-- A character at which no match starts belongs to the stretch before the first match. -/
theorem Scan.miss {c : Char} {s gap : List Char} {found : List (Found α)} (h : Scan r s gap found)
    (none : r (c :: s) = none) : Scan r (c :: s) (c :: gap) found := by
  cases h with
  | last silent => exact .last (silent_cons.mpr ⟨by simpa using none, silent⟩)
  | next silent nonempty read rest =>
    have silent := silent_cons.mpr ⟨by simpa using none, silent⟩
    exact @Scan.next _ _ (c :: gap) _ _ _ _ _ silent nonempty read rest

/-- A reader that takes something from the front of the text when it matches. -/
def Takes (r : Reader α) : Prop :=
  ∀ s a rest, r s = some (a, rest) → ∃ printed, printed ≠ [] ∧ s = printed ++ rest

/-- What `cut` finds is a scan. -/
theorem exists_scan (takes : Takes r) (s : List Char) :
    ∃ found, Scan r s (cut r s).1 found := by
  fun_induction cut r s with
  | case1 => exact ⟨[], .last (silent_nil [])⟩
  | case2 c s a rest read shorter gap found eq ih =>
    obtain ⟨found, scan⟩ := ih
    obtain ⟨printed, nonempty, split⟩ := takes _ _ _ read
    rw [split] at read ⊢
    exact ⟨_, @Scan.next _ _ [] _ _ _ _ _ (silent_nil _) nonempty read scan⟩
  | case3 c s a rest read longer gap found eq ih =>
    obtain ⟨printed, nonempty, split⟩ := takes _ _ _ read
    refine absurd ?_ longer
    rw [split, List.length_append]
    have := List.length_pos_iff.mpr nonempty
    omega
  | case4 c s read gap found eq ih =>
    obtain ⟨found, scan⟩ := ih
    rw [eq] at scan
    exact ⟨found, scan.miss read⟩

/-- The first of all matches is the first match. -/
theorem head?_matchesOf (takes : Takes r) (s : List Char) :
    (matchesOf r s).head? = (firstMatch r s).map fun (_, a, _) => a := by
  obtain ⟨found, scan⟩ := exists_scan takes s
  rw [matchesOf, scan.cut_eq]
  generalize (cut r s).1 = gap at scan
  cases scan with
  | last silent =>
    have missed := firstMatch_silent silent
    rw [List.append_nil] at missed
    rw [missed]
    rfl
  | next silent nonempty read _ =>
    rw [firstMatch_silent silent, firstMatch_match nonempty read]
    rfl

/-- Readers that agree everywhere in a text find the same in it. -/
theorem firstMatch_congr {r' : Reader α} {s : List Char}
    (agree : ∀ t, t <:+ s → r t = r' t) : firstMatch r s = firstMatch r' s := by
  induction s with
  | nil => rfl
  | cons c s ih =>
    rw [firstMatch, firstMatch, agree _ List.suffix_rfl,
      ih fun t suffix => agree t (suffix.trans (List.suffix_cons c s))]

end Scan

end RouteAlerts.Text
