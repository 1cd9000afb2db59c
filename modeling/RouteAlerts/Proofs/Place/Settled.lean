import RouteAlerts.Proofs.Place.NormalForm

/-!
Place names that are normalized twice. A pass may leave what an earlier pass would have rewritten: a
distance or a filler that was held apart by something that is taken out, or an alias whose proper
name stood behind a sign between stations. So normalizing is not idempotent
(`normalize_not_idempotent`).

A second time leaves a normal form alone exactly when it holds no distance, no filler, and no alias
without the name that a search knows (`normalize_normalize_iff`). That nothing else is left alone,
as one pass might undo what another one does, is shown by weighing characters: every pass that
rewrites a text makes it heavier.
-/

namespace RouteAlerts.PlaceName

open Text

/-- Whether a text has an alias only together with the name that a search knows. -/
def IsNamed (s : List Char) (entry : List Char × List Char) : Prop :=
  entry.1 <:+: s → entry.2 <:+: s

/-- A text in which normalizing finds nothing to rewrite: no distance, no filler, and no alias
without the name that a search knows. -/
structure IsSettled (s : List Char) : Prop where
  distance : ¬ HoldsDistance s
  filler : ¬ HoldsFiller s
  named : ∀ entry ∈ aliases, IsNamed s entry

/-! ### Weighing characters -/

/-- What a character weighs. Blanks weigh nothing and most others less than nothing, so that to take
something out adds weight. To write a name as a search knows it puts characters in; for five names
one that their alias lacks makes up for the others, and the aliases of the police box have one that
is taken out. -/
def worth (c : Char) : Int :=
  if isBlank c then 0
  else if c = '효' then -10
  else if c ∈ ['경', '울', '국', '와', '용'] then 10
  else -1

theorem weigh_strip (s : List Char) : weigh worth (strip s) = weigh worth s := by
  induction s with
  | nil => rfl
  | cons c s ih =>
    by_cases blank : isBlank c = true
    · have nothing : worth c = 0 := by simp [worth, blank]
      have same : strip (c :: s) = strip s := by simp [strip, blank]
      rw [same, weigh_cons, nothing, ih, zero_add]
    · have same : strip (c :: s) = c :: strip s := by simp [strip, blank]
      rw [same, weigh_cons, weigh_cons, ih]

theorem weigh_squeeze (s : List Char) : weigh worth (squeeze s) = weigh worth s := by
  rw [← weigh_strip (squeeze s), strip_squeeze, weigh_strip]

theorem weigh_nonpos {s : List Char} (light : ∀ c ∈ s, worth c ≤ 0) : weigh worth s ≤ 0 := by
  induction s with
  | nil => exact le_refl _
  | cons c s ih =>
    have head := light c List.mem_cons_self
    have tail := ih fun d hd => light d (List.mem_cons_of_mem _ hd)
    rw [weigh_cons]
    omega

/-! ### What each pass adds -/

theorem worth_of_isDigit {c : Char} (h : isDigit c = true) : worth c ≤ 0 := by
  have special : ['경', '울', '국', '와', '용'].all (!isDigit ·) = true := by decide +kernel
  have other : c ∉ ['경', '울', '국', '와', '용'] := by
    intro listed
    have letter := List.all_eq_true.mp special c listed
    rw [h] at letter
    cases letter
  rw [worth, if_neg other]
  split
  · exact le_refl _
  · split <;> decide

/-- To take out distances adds weight. -/
theorem improves_dropDistances : Improves worth dropDistances fun s => ¬ HoldsDistance s := by
  change Improves worth (substitute distance? fun _ => []) _
  refine (Improves.substitute takes_distance? ?_).congr fun s => silent_distance?_iff
  intro printed rest _ found
  obtain ⟨front, digit, gap, digits, last, blank, split⟩ := exists_of_distance? found
  have own : printed = front ++ digit :: gap ++ ['k', 'm'] := by
    have whole : printed ++ rest = (front ++ digit :: gap ++ ['k', 'm']) ++ rest := by simp [split]
    exact List.append_cancel_right whole
  -- Nothing in a distance adds weight, and its unit takes some away.
  have light : weigh worth (front ++ digit :: gap) ≤ 0 := by
    refine weigh_nonpos fun c hc => ?_
    rcases List.mem_append.mp hc with inFront | inBack
    · rcases digits c inFront with isDigit | rfl
      · exact worth_of_isDigit isDigit
      · decide
    · rcases List.mem_cons.mp inBack with rfl | inGap
      · exact worth_of_isDigit last
      · simp [worth, blank c inGap]
  have unit : weigh worth ['k', 'm'] < 0 := by decide
  rw [own, weigh_append, weigh_nil]
  omega

/-- To blank fillers adds weight. -/
theorem improves_blankFillers : Improves worth blankFillers fun s => ¬ HoldsFiller s := by
  have light : ∀ filler ∈ fillers, weigh worth filler < weigh worth [' '] := by decide
  change Improves worth (substitute filler? fun _ => [' ']) _
  refine (Improves.substitute takes_filler? ?_).congr fun s => silent_filler?_iff
  intro printed rest _ found
  obtain ⟨filler, listed, split⟩ := exists_of_filler? found
  rw [List.append_cancel_right split]
  exact light filler listed

/-- To write a name as a search knows it adds weight. -/
theorem improves_useAlias {entry : List Char × List Char} (listed : entry ∈ aliases) :
    Improves worth (useAlias · entry) fun s => IsNamed s entry := by
  have heavier : ∀ entry ∈ aliases, weigh worth entry.1 < weigh worth entry.2 := by decide
  have nonempty := ne_nil_of_mem_aliases entry listed
  have rewriting : Improves worth (replace entry.1 entry.2) fun s => ¬ entry.1 <:+: s := by
    change Improves worth (substitute (literal entry.1) fun _ => entry.2) _
    refine (Improves.substitute (takes_literal nonempty) ?_).congr fun s =>
      silent_literal_iff nonempty
    intro printed rest _ found
    rw [List.append_cancel_right (literal_eq_some_iff.mp found)]
    exact heavier entry listed
  have applies : ∀ s, (contains s entry.1 && !contains s entry.2) = true ↔
      ¬ IsNamed s entry := by
    intro s
    rw [IsNamed, Bool.and_eq_true, Bool.not_eq_true', ← Bool.not_eq_true, contains_iff_infix,
      contains_iff_infix, Classical.not_imp]
  constructor
  · intro s named
    exact if_neg (mt (applies s).mp (not_not_intro named))
  · intro s unnamed
    have alone := Classical.not_imp.mp unnamed
    have rewritten : useAlias s entry = replace entry.1 entry.2 s :=
      if_pos ((applies s).mpr unnamed)
    rw [rewritten]
    exact rewriting.gains s (not_not_intro alone.1)

theorem improves_foldl_useAlias {entries : List (List Char × List Char)}
    (listed : entries ⊆ aliases) :
    Improves worth (entries.foldl useAlias ·) fun s => ∀ entry ∈ entries, IsNamed s entry := by
  induction entries with
  | nil => exact ⟨fun _ _ => rfl, fun s undone => absurd (by simp) undone⟩
  | cons entry entries ih =>
    obtain ⟨first, others⟩ := List.cons_subset.mp listed
    exact ((ih others).comp (improves_useAlias first)).congr fun s => List.forall_mem_cons.symm

/-- The passes that rewrite a normal form add weight, together as each alone, and leave alone what
is settled. -/
theorem improves_passes : Improves worth
    (dropDistances ∘ blankFillers ∘ (aliases.foldl useAlias ·) ∘ dropDistances) IsSettled := by
  have names := improves_foldl_useAlias (List.Subset.refl aliases)
  have passes := improves_dropDistances.comp
    (improves_blankFillers.comp (names.comp improves_dropDistances))
  refine passes.congr fun s => ?_
  constructor
  · rintro ⟨⟨⟨distance, named⟩, filler⟩, -⟩
    exact ⟨distance, filler, named⟩
  · rintro ⟨distance, filler, named⟩
    exact ⟨⟨⟨distance, named⟩, filler⟩, distance⟩

/-! ### Fixed points -/

/-- Normalizing leaves a normal form alone exactly when it is settled. -/
theorem IsNormal.normalize_eq_self_iff {s : List Char} (normal : IsNormal s) :
    normalize s = s ↔ IsSettled s := by
  constructor
  · intro fixed
    have tidied : tidy s = s := by
      simp only [normalize] at fixed
      split at fixed
      · have long := normal.long
        rw [← fixed] at long
        exact absurd long (by decide)
      · exact fixed
    -- A pass that changes anything adds weight, so all of them have left the name alone.
    have weight := congrArg (weigh worth) (normal.tidy_eq.symm.trans tidied)
    refine improves_passes.done_of_weigh_eq ?_
    simpa only [Function.comp_apply, weigh_squeeze] using weight
  · intro settled
    have passes := improves_passes.stays s settled
    simp only [Function.comp_apply] at passes
    have tidied : tidy s = s := by
      rw [normal.tidy_eq, passes, normal.squeezed]
    rw [normalize, tidied]
    exact if_neg (Nat.not_lt.mpr normal.long)

theorem normalize_nil : normalize [] = [] := by decide +kernel

theorem isSettled_nil : IsSettled [] := by
  have nothing : ∀ entry ∈ aliases, ¬ entry.1 <:+: [] := by decide
  constructor
  · rintro ⟨digit, gap, -, -, occurs⟩
    cases List.eq_nil_of_infix_nil occurs
  · rintro ⟨filler, listed, occurs⟩
    exact ne_nil_of_mem_fillers filler listed (List.eq_nil_of_infix_nil occurs)
  · exact fun entry listed occurs => absurd occurs (nothing entry listed)

/-- What normalizing leaves alone is nothing and the settled normal forms. -/
theorem normalize_eq_self_iff {s : List Char} :
    normalize s = s ↔ s = [] ∨ IsNormal s ∧ IsSettled s := by
  constructor
  · intro fixed
    rcases isNormal_normalize s with empty | normal
    · exact .inl (fixed.symm.trans empty)
    · rw [fixed] at normal
      exact .inr ⟨normal, normal.normalize_eq_self_iff.mp fixed⟩
  · rintro (rfl | ⟨normal, settled⟩)
    · exact normalize_nil
    · exact normal.normalize_eq_self_iff.mpr settled

/-- A place name is left alone exactly when there is nothing of it or it is a settled normal form.
So normalizing twice is normalizing once exactly when what the first time leaves holds no distance,
no filler, and no alias without the name that a search knows. -/
theorem normalize_normalize_iff (raw : List Char) :
    (normalize raw = raw ↔ raw = [] ∨ IsNormal raw ∧ IsSettled raw) ∧
      (normalize (normalize raw) = normalize raw ↔ IsSettled (normalize raw)) := by
  refine ⟨normalize_eq_self_iff, ?_⟩
  rcases isNormal_normalize raw with empty | normal
  · rw [empty]
    exact ⟨fun _ => isSettled_nil, fun _ => normalize_nil⟩
  · exact normal.normalize_eq_self_iff

/-- A distance inside another one holds it apart the first time. -/
example : normalize "1-2-kmkm".toList = "1 km".toList ∧ normalize "1 km".toList = [] := by
  decide +kernel

/-- A distance holds a filler apart the first time. -/
example : normalize "광화문 동3-km측".toList = "광화문 동측".toList ∧
    normalize "광화문 동측".toList = "광화문".toList := by
  decide +kernel

/-- The proper name of a police station stands behind a sign between stations and is cut off after
it has kept the alias in front from being written out. -/
theorem normalize_not_idempotent :
    ¬ ∀ raw, normalize (normalize raw) = normalize raw := by
  intro idempotent
  have again := idempotent "남대문서→남대문경찰서".toList
  revert again
  decide +kernel

end RouteAlerts.PlaceName
