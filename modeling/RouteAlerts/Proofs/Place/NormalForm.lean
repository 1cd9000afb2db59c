import Mathlib.Data.List.TakeWhile
import RouteAlerts.Place.Name
import RouteAlerts.Proofs.Text.Digits
import RouteAlerts.Proofs.Text.Piece
import RouteAlerts.Proofs.Text.Substitute

/-!
The normal form of a place name. What is left of a name are word characters and single spaces, with
no sign for an exit (`isNormal_normalize`), nor any mark or filler of one syllable
(`normalize_clean`). On such a text the passes against remarks, former names, stations, exits and
marks do nothing, so to normalize it again is to take out its distances, write its names as a search
knows them, blank its fillers and take out distances once more (`IsNormal.tidy_eq`).
-/

namespace RouteAlerts.PlaceName

open Text

/-! ### Distances -/

theorem kilometres?_eq_some_iff {s rest : List Char} : kilometres? s = some rest ↔
    ∃ gap, (∀ c ∈ gap, isBlank c = true) ∧ s = gap ++ 'k' :: 'm' :: rest := by
  unfold kilometres?
  constructor
  · intro h
    split at h
    · rename_i behind sign
      obtain rfl := Option.some.inj h
      refine ⟨s.takeWhile isBlank, fun c hc => List.mem_takeWhile_imp hc, ?_⟩
      rw [← sign, List.takeWhile_append_dropWhile]
    · cases h
  · rintro ⟨gap, blank, rfl⟩
    have stop : isBlank 'k' = false := by decide
    rw [dropWhile_append_stop blank (by simp [stop])]
    rfl

/-- A number of kilometres ends with a digit, blanks and the unit. -/
theorem exists_of_kilometres? {s run behind rest : List Char}
    (number : digitRun? s = some (run, behind)) (unit : kilometres? behind = some rest) :
    ∃ front digit gap, (∀ c ∈ front, isDigit c = true) ∧ isDigit digit = true ∧
      (∀ c ∈ gap, isBlank c = true) ∧ s = front ++ digit :: (gap ++ 'k' :: 'm' :: rest) := by
  obtain ⟨nonempty, digits, rfl⟩ := digitRun?_eq_some number
  obtain ⟨gap, blank, rfl⟩ := kilometres?_eq_some_iff.mp unit
  obtain ⟨front, digit, rfl⟩ := (List.eq_nil_or_concat' run).resolve_left nonempty
  refine ⟨front, digit, gap, fun c hc => digits c (List.mem_append_left _ hc),
    digits digit (by simp), blank, by simp⟩

/-- A distance ends with a digit, blanks and the unit; before the digit there are only digits and
the point of a fraction. -/
theorem exists_of_distance? {s rest : List Char} (h : distance? s = some ((), rest)) :
    ∃ front digit gap, (∀ c ∈ front, isDigit c = true ∨ c = '.') ∧ isDigit digit = true ∧
      (∀ c ∈ gap, isBlank c = true) ∧ s = front ++ digit :: (gap ++ 'k' :: 'm' :: rest) := by
  obtain ⟨⟨run, behind⟩, number, h⟩ := Option.bind_eq_some_iff.mp h
  obtain ⟨rest', unit, eq⟩ := Option.bind_eq_some_iff.mp h
  obtain rfl : rest' = rest := by simpa using eq
  rw [Option.orElse_eq_or] at unit
  rcases Option.or_eq_some_iff.mp unit with fraction | ⟨-, whole⟩
  · split at fraction
    · obtain ⟨⟨run', behind'⟩, number', unit⟩ := Option.bind_eq_some_iff.mp fraction
      obtain ⟨front, digit, gap, digits, last, blank, rfl⟩ := exists_of_kilometres? number' unit
      obtain ⟨-, whole, rfl⟩ := digitRun?_eq_some number
      refine ⟨run ++ '.' :: front, digit, gap, ?_, last, blank, by simp⟩
      intro c hc
      rcases List.mem_append.mp hc with inWhole | inFraction
      · exact .inl (whole c inWhole)
      · rcases List.mem_cons.mp inFraction with point | inFront
        · exact .inr point
        · exact .inl (digits c inFront)
    · cases fraction
  · obtain ⟨front, digit, gap, digits, last, blank, split⟩ := exists_of_kilometres? number whole
    exact ⟨front, digit, gap, fun c hc => .inl (digits c hc), last, blank, split⟩

/-- Where a digit, blanks and the unit stand, there is a distance. -/
theorem distance?_ne_none {digit : Char} {gap rest : List Char} (last : isDigit digit = true)
    (blank : ∀ c ∈ gap, isBlank c = true) :
    distance? (digit :: (gap ++ 'k' :: 'm' :: rest)) ≠ none := by
  have stop : ∀ c ∈ ('k' :: 'm' :: rest).head?, isDigit c = false := by
    intro c head
    obtain rfl : 'k' = c := by simpa using head
    decide
  have number := digitRun?_digit last blank stop
  have unit : kilometres? (gap ++ 'k' :: 'm' :: rest) = some rest :=
    kilometres?_eq_some_iff.mpr ⟨gap, blank, rfl⟩
  simp [distance?, number, unit]

theorem takes_distance? : Takes distance? := by
  intro s _ rest found
  obtain ⟨front, digit, gap, -, -, -, rfl⟩ := exists_of_distance? found
  exact ⟨front ++ digit :: (gap ++ ['k', 'm']), by simp, by simp⟩

/-- Whether a digit, blanks and the unit of a distance stand in a text. -/
def HoldsDistance (s : List Char) : Prop :=
  ∃ digit gap, isDigit digit = true ∧ (∀ c ∈ gap, isBlank c = true) ∧
    digit :: (gap ++ ['k', 'm']) <:+: s

theorem silent_distance?_iff {s : List Char} : Silent distance? s [] ↔ ¬ HoldsDistance s := by
  have shown : HoldsDistance s ↔ ∃ t, (∃ digit gap, isDigit digit = true ∧
      (∀ c ∈ gap, isBlank c = true) ∧ t = digit :: (gap ++ ['k', 'm'])) ∧ t <:+: s := by
    constructor
    · rintro ⟨digit, gap, last, blank, occurs⟩
      exact ⟨_, ⟨digit, gap, last, blank, rfl⟩, occurs⟩
    · rintro ⟨_, ⟨digit, gap, last, blank, rfl⟩, occurs⟩
      exact ⟨digit, gap, last, blank, occurs⟩
  rw [shown]
  apply silent_iff_of_shows
  · rintro t ⟨digit, gap, -, -, rfl⟩
    exact List.cons_ne_nil _ _
  · rintro t rest ⟨digit, gap, last, blank, rfl⟩
    simpa using @distance?_ne_none digit gap rest last blank
  · rintro t ⟨_, rest⟩ found
    obtain ⟨front, digit, gap, -, last, blank, rfl⟩ := exists_of_distance? found
    exact ⟨_, ⟨digit, gap, last, blank, rfl⟩, front, rest, by simp⟩

/-! ### Fillers -/

theorem exists_of_filler? {s rest : List Char} (h : filler? s = some ((), rest)) :
    ∃ filler ∈ fillers, s = filler ++ rest := by
  obtain ⟨filler, listed, found⟩ := List.exists_of_findSome?_eq_some h
  exact ⟨filler, listed, literal_eq_some_iff.mp found⟩

theorem ne_nil_of_mem_fillers : ∀ filler ∈ fillers, filler ≠ [] := by decide

theorem takes_filler? : Takes filler? := by
  intro s _ rest found
  obtain ⟨filler, listed, split⟩ := exists_of_filler? found
  exact ⟨filler, ne_nil_of_mem_fillers filler listed, split⟩

/-- Where a filler stands, one is met. -/
theorem filler?_ne_none {filler : List Char} (listed : filler ∈ fillers) (rest : List Char) :
    filler? (filler ++ rest) ≠ none := by
  intro missed
  rw [filler?, List.findSome?_eq_none_iff] at missed
  have own := missed filler listed
  rw [literal_eq_some_iff.mpr rfl] at own
  cases own

def HoldsFiller (s : List Char) : Prop := ∃ filler ∈ fillers, filler <:+: s

theorem silent_filler?_iff {s : List Char} : Silent filler? s [] ↔ ¬ HoldsFiller s := by
  apply silent_iff_of_shows
  · exact ne_nil_of_mem_fillers
  · exact fun filler rest listed => filler?_ne_none listed rest
  · rintro t ⟨_, rest⟩ found
    obtain ⟨filler, listed, rfl⟩ := exists_of_filler? found
    exact ⟨filler, listed, (List.prefix_append filler rest).isInfix⟩

/-! ### The characters of a normal form -/

/-- Whether a character may be left in a place name: it is a word character or a space, and not the
sign for an exit. -/
def IsKept (c : Char) : Prop := (isWord c = true ∨ c = ' ') ∧ c ≠ '出'

instance (c : Char) : Decidable (IsKept c) := by unfold IsKept; infer_instance

/-- A place name in normal form: long enough, words with single spaces between them, and characters
that may be left. -/
structure IsNormal (s : List Char) : Prop where
  long : shortest ≤ s.length
  squeezed : squeeze s = s
  kept : ∀ c ∈ s, IsKept c

theorem IsNormal.trimmed {s : List Char} (normal : IsNormal s) : trim s = s := by
  rw [← normal.squeezed, trim_squeeze]

theorem mem_dropDistances {s : List Char} {c : Char} (h : c ∈ dropDistances s) : c ∈ s := by
  rcases mem_substitute takes_distance? h with old | ⟨_, _, _, _, new⟩
  · exact old
  · cases new

theorem mem_blankFillers {s : List Char} {c : Char} (h : c ∈ blankFillers s) : c ∈ s ∨ c = ' ' := by
  refine (mem_substitute takes_filler? h).imp_right ?_
  rintro ⟨_, _, _, _, new⟩
  exact List.mem_singleton.mp new

theorem mem_blankMarks {s : List Char} {c : Char} (h : c ∈ blankMarks s) :
    c = ' ' ∨ c ∈ s ∧ (isWord c = true ∨ isBlank c = true) := by
  obtain ⟨d, hd, rfl⟩ := List.mem_map.mp h
  split
  · rename_i shown
    exact .inr ⟨hd, by simpa using shown⟩
  · exact .inl rfl

theorem ne_nil_of_mem_aliases : ∀ entry ∈ aliases, entry.1 ≠ [] := by decide

theorem isKept_of_mem_aliases {entry : List Char × List Char} (listed : entry ∈ aliases) {c : Char}
    (h : c ∈ entry.2) : IsKept c := by
  have names : aliases.all (fun entry => entry.2.all fun c => decide (IsKept c)) = true := by
    decide +kernel
  exact of_decide_eq_true (List.all_eq_true.mp (List.all_eq_true.mp names entry listed) c h)

theorem mem_useAlias {s : List Char} {entry : List Char × List Char} (listed : entry ∈ aliases)
    {c : Char} (h : c ∈ useAlias s entry) : c ∈ s ∨ IsKept c := by
  unfold useAlias at h
  split at h
  · refine (mem_substitute (takes_literal (ne_nil_of_mem_aliases entry listed)) h).imp_right ?_
    rintro ⟨_, _, _, _, new⟩
    exact isKept_of_mem_aliases listed new
  · exact .inl h

theorem mem_foldl_useAlias {entries : List (List Char × List Char)} (listed : entries ⊆ aliases)
    {s : List Char} {c : Char} (h : c ∈ entries.foldl useAlias s) : c ∈ s ∨ IsKept c := by
  induction entries generalizing s with
  | nil => exact .inl h
  | cons entry entries ih =>
    obtain ⟨first, others⟩ := List.cons_subset.mp listed
    rcases ih others h with inFirst | kept
    · exact mem_useAlias first inFirst
    · exact .inr kept

/-- No sign for an exit is left where they are written out. -/
theorem notMem_spellExits (s : List Char) : '出' ∉ spellExits s := notMem_replace (by decide) _

/-- No filler of one syllable is left where fillers are blanked. A longer one may come up later,
when a distance that stands inside it is taken out. -/
theorem notMem_blankFillers {c : Char} (listed : [c] ∈ fillers) (s : List Char) :
    c ∉ blankFillers s := by
  have other : c ≠ ' ' := by
    rintro rfl
    exact absurd listed (by decide)
  exact notMem_substitute takes_filler? (filler?_ne_none listed) (by simpa using other) s

/-- What is left of a name are spaces, and word characters that stand where exits are written out
and fillers blanked. -/
theorem mem_tidy {raw : List Char} {c : Char} (h : c ∈ tidy raw) :
    c = ' ' ∨ isWord c = true ∧ ∃ s, c ∈ blankFillers (spellExits s) := by
  rcases mem_squeeze h with space | ⟨h, solid⟩
  · exact .inl space
  · rcases mem_blankMarks (mem_dropDistances h) with space | ⟨h, shown⟩
    · exact .inl space
    · exact .inr ⟨shown.resolve_right (by simp [solid]), _, h⟩

theorem isKept_of_mem_tidy {raw : List Char} : ∀ c ∈ tidy raw, IsKept c := by
  intro c h
  rcases mem_tidy h with rfl | ⟨word, s, h⟩
  · decide +kernel
  · refine ⟨.inl word, ?_⟩
    rintro rfl
    rcases mem_blankFillers h with left | space
    · exact notMem_spellExits s left
    · cases space

/-- A place name is normalized to nothing or to a normal form. -/
theorem isNormal_normalize (raw : List Char) :
    normalize raw = [] ∨ IsNormal (normalize raw) := by
  unfold normalize
  by_cases short : (tidy raw).length < shortest
  · exact .inl (if_pos short)
  · rw [if_neg short]
    exact .inr ⟨Nat.le_of_not_lt short, squeeze_squeeze _, isKept_of_mem_tidy⟩

/-! ### Passes over a normal form -/

section Passes

variable {s : List Char}

theorem not_isKept_of_opensRemark {c : Char} (h : opensRemark c = true) : ¬ IsKept c := by
  simp only [opensRemark, Bool.or_eq_true, beq_iff_eq] at h
  rcases h with (rfl | rfl) | rfl <;> decide +kernel

theorem not_isKept_of_closesRemark {c : Char} (h : closesRemark c = true) : ¬ IsKept c := by
  simp only [closesRemark, Bool.or_eq_true, beq_iff_eq] at h
  rcases h with (rfl | rfl) | rfl <;> decide +kernel

theorem not_isKept_of_separatesStations {c : Char} (h : separatesStations c = true) :
    ¬ IsKept c := by
  simp only [separatesStations, Bool.or_eq_true, beq_iff_eq] at h
  rcases h with ((rfl | rfl) | rfl) | rfl <;> decide +kernel

theorem dropFormer_eq_self (kept : ∀ c ∈ s, IsKept c) : dropFormer s = s := by
  have opening : '(' ∉ s := fun h => absurd (kept _ h) (by decide +kernel)
  have closing : ')' ∉ s := fun h => absurd (kept _ h) (by decide +kernel)
  rw [dropFormer, replace_eq_self (by decide) opening, replace_eq_self (by decide) closing]

theorem dropRemarks_eq_self (kept : ∀ c ∈ s, IsKept c) : dropRemarks s = s := by
  refine substitute_eq_self_of_silent (silent_of_heads (p := opensRemark) ?_ ?_)
  · intro c t other
    simp [remark?, other]
  · exact fun c hc => Bool.eq_false_iff.mpr fun opens => not_isKept_of_opensRemark opens (kept c hc)

theorem dropOpenRemark_eq_self (kept : ∀ c ∈ s, IsKept c) : dropOpenRemark s = s := by
  have opening : '(' ∉ s := fun h => absurd (kept _ h) (by decide +kernel)
  clear kept
  induction s with
  | nil => rfl
  | cons c s ih =>
    obtain ⟨other, rest⟩ := List.ne_and_not_mem_of_not_mem_cons opening
    simp [dropOpenRemark, Ne.symm other, ih rest]

theorem firstStation_eq_self (kept : ∀ c ∈ s, IsKept c) : firstStation s = s := by
  refine List.takeWhile_eq_self_iff.mpr fun c hc => ?_
  rw [Bool.not_eq_true', ← Bool.not_eq_true]
  exact fun separates => not_isKept_of_separatesStations separates (kept c hc)

theorem mem_of_numberedExit? {found : List Char × List Char} (h : numberedExit? s = some found) :
    '出' ∈ s := by
  obtain ⟨⟨run, behind⟩, digits, sign⟩ := Option.bind_eq_some_iff.mp h
  obtain ⟨-, -, rfl⟩ := digitRun?_eq_some digits
  dsimp only at sign
  split at sign
  · rename_i exit
    have inside : '出' ∈ behind.dropWhile isBlank := by simp [exit]
    exact List.mem_append_right run ((List.dropWhile_suffix _).subset inside)
  · cases sign

theorem spellExits_eq_self (kept : ∀ c ∈ s, IsKept c) : spellExits s = s := by
  have sign : '出' ∉ s := fun h => (kept _ h).2 rfl
  have silent : Silent numberedExit? s [] := by
    refine silent_iff.mpr fun t suffix _ => Option.eq_none_iff_forall_not_mem.mpr ?_
    exact fun _ found => sign (suffix.subset (mem_of_numberedExit? found))
  rw [spellExits, substitute_eq_self_of_silent silent,
    replace_eq_self (List.mem_singleton_self _) sign]

theorem blankMarks_eq_self (kept : ∀ c ∈ s, IsKept c) : blankMarks s = s := by
  refine (List.map_congr_left fun c hc => ?_).trans (List.map_id s)
  rcases (kept c hc).1 with word | rfl
  · simp [word]
  · rfl

/-- To normalize a normal form again is to take out its distances, to write its names as a search
knows them, to blank its fillers and to take out distances once more. -/
theorem IsNormal.tidy_eq (normal : IsNormal s) : tidy s =
    squeeze (dropDistances (blankFillers (aliases.foldl useAlias (dropDistances s)))) := by
  have first : ∀ c ∈ dropDistances s, IsKept c := fun c hc => normal.kept c (mem_dropDistances hc)
  have second : ∀ c ∈ aliases.foldl useAlias (dropDistances s), IsKept c := fun c hc =>
    (mem_foldl_useAlias (List.Subset.refl _) hc).elim (first c) id
  have third : ∀ c ∈ blankFillers (aliases.foldl useAlias (dropDistances s)), IsKept c := by
    intro c hc
    rcases mem_blankFillers hc with old | rfl
    · exact second c old
    · decide +kernel
  rw [tidy, normal.trimmed, dropFormer_eq_self normal.kept, dropRemarks_eq_self first,
    dropOpenRemark_eq_self first, firstStation_eq_self second, spellExits_eq_self second,
    blankMarks_eq_self third]

end Passes

/-! ### Clean names -/

/-- A place name that is fit for a search: two characters or more, all of them word characters apart
from single spaces between them, and among them no bracket, no sign between stations, no sign for an
exit and no syllable that alone is a filler. -/
structure IsClean (s : List Char) : Prop where
  long : 2 ≤ s.length
  words : ∀ c ∈ s, isWord c = true ∨ c = ' '
  front : s.head? ≠ some ' '
  back : s.getLast? ≠ some ' '
  single : ¬ [' ', ' '] <:+: s
  unmarked : ∀ c ∈ s,
    opensRemark c = false ∧ closesRemark c = false ∧ separatesStations c = false
  bare : ∀ c ∈ ['出', '옆', '앞', '뒤', '안', '밖'], c ∉ s

theorem mem_tidy_of_mem_normalize {raw : List Char} {c : Char} (h : c ∈ normalize raw) :
    c ∈ tidy raw := by
  simp only [normalize] at h
  split at h
  · cases h
  · exact h

/-- No filler of one syllable is left in a normal form. -/
theorem notMem_normalize {raw : List Char} {c : Char} (listed : [c] ∈ fillers) :
    c ∉ normalize raw := by
  intro h
  rcases mem_tidy (mem_tidy_of_mem_normalize h) with rfl | ⟨-, _, left⟩
  · exact absurd listed (by decide)
  · exact notMem_blankFillers listed _ left

/-- Of every place name normalizing leaves nothing or a clean name. -/
theorem normalize_clean (raw : List Char) : normalize raw = [] ∨ IsClean (normalize raw) := by
  refine (isNormal_normalize raw).imp_right fun normal => ?_
  -- Fillers are listed as words; these are the ones that are a single syllable.
  have ofOne : ['옆', '앞', '뒤', '안', '밖'].map ([·]) ⊆ fillers := by decide
  have space : isBlank ' ' = true := by decide
  constructor
  · exact normal.long
  · exact fun c hc => (normal.kept c hc).1
  · intro front
    have solid := isBlank_head_trim (normalize raw) ' ' (by rwa [normal.trimmed])
    rw [space] at solid
    cases solid
  · intro back
    have solid := isBlank_last_trim (normalize raw) ' ' (by rwa [normal.trimmed])
    rw [space] at solid
    cases solid
  · rw [← normal.squeezed]
    exact not_double_space_squeeze _
  · intro c hc
    have kept := normal.kept c hc
    refine ⟨?_, ?_, ?_⟩ <;> rw [← Bool.not_eq_true]
    · exact fun opens => not_isKept_of_opensRemark opens kept
    · exact fun closes => not_isKept_of_closesRemark closes kept
    · exact fun separates => not_isKept_of_separatesStations separates kept
  · intro c listed
    rcases List.mem_cons.mp listed with rfl | syllable
    · exact fun sign => (normal.kept _ sign).2 rfl
    · exact notMem_normalize (ofOne (List.mem_map_of_mem syllable))

end RouteAlerts.PlaceName
