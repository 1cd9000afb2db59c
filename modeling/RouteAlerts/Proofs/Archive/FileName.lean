import RouteAlerts.Archive.FileName
import RouteAlerts.Proofs.Text.Piece

/-!
Names of files. Every text is made into a name that any common file system takes, and a name that is
one already stays as it is (`sanitize_eq_self_iff`). What a file is stored under after the point has
no characters that such a name has not (`isPlainExtension_storedExtension`).
-/

namespace RouteAlerts.FileName

open Text

variable {name ext : List Char}

/-! ### Clean names -/

/-- A name that may be given to a file on any common file system. -/
structure IsClean (name : List Char) : Prop where
  nonempty : name ≠ []
  front : ∀ c ∈ name.head?, isBlank c = false
  back : ∀ c ∈ name.getLast?, isBlank c = false
  allowed : ∀ c ∈ name, c ∉ reserved ∧ isControl c = false

theorem isForbidden_eq_false_iff {c : Char} :
    isForbidden c = false ↔ c ∉ reserved ∧ isControl c = false := by
  simp [isForbidden]

def mend (c : Char) : Char := if isForbidden c then '_' else c

theorem isForbidden_mend (c : Char) : isForbidden (mend c) = false := by
  unfold mend
  split
  · decide
  · rename_i allowed
    exact Bool.eq_false_iff.mpr allowed

/-- No character is made a blank. -/
theorem isBlank_mend {c : Char} (solid : isBlank c = false) : isBlank (mend c) = false := by
  unfold mend
  split
  · decide
  · exact solid

theorem sanitize_eq (name : List Char) :
    sanitize name = if trim name = [] then fallback else (trim name).map mend := by
  by_cases blank : trim name = []
  · simp [sanitize, blank]
  · simp [sanitize, blank, mend]

theorem allowed_of_all {s : List Char} (h : s.all (!isForbidden ·) = true) :
    ∀ c ∈ s, c ∉ reserved ∧ isControl c = false := by
  intro c inside
  exact isForbidden_eq_false_iff.mp (by simpa using List.all_eq_true.mp h c inside)

theorem isClean_fallback : IsClean fallback := by
  constructor
  · decide
  · intro c first
    obtain rfl : 'a' = c := Option.some.inj first
    decide
  · intro c last
    obtain rfl : 'n' = c := Option.some.inj last
    decide
  · exact allowed_of_all (by decide)

/-- A sanitized name is clean. Mending comes after trimming, so it must not put a blank at either
end.
-/
theorem isClean_sanitize (name : List Char) : IsClean (sanitize name) := by
  rw [sanitize_eq]
  split
  · exact isClean_fallback
  · rename_i named
    constructor
    · simpa using named
    · intro c head
      rw [List.head?_map] at head
      obtain ⟨d, first, rfl⟩ := Option.map_eq_some_iff.mp head
      exact isBlank_mend (isBlank_head_trim name d first)
    · intro c last
      rw [List.getLast?_map] at last
      obtain ⟨d, final, rfl⟩ := Option.map_eq_some_iff.mp last
      exact isBlank_mend (isBlank_last_trim name d final)
    · intro c inside
      obtain ⟨d, -, rfl⟩ := List.mem_map.mp inside
      exact isForbidden_eq_false_iff.mp (isForbidden_mend d)

/-- The clean names are those that stay as they are. -/
theorem sanitize_eq_self_iff : sanitize name = name ↔ IsClean name := by
  constructor
  · intro same
    exact same ▸ isClean_sanitize name
  · rintro ⟨nonempty, front, back, allowed⟩
    have kept : name.map mend = name := by
      refine (List.map_congr_left fun c inside => ?_).trans (List.map_id name)
      simp [mend, isForbidden_eq_false_iff.mpr (allowed c inside)]
    rw [sanitize_eq, trim_eq_self front back, if_neg nonempty, kept]

theorem sanitize_sanitize (name : List Char) : sanitize (sanitize name) = sanitize name :=
  sanitize_eq_self_iff.mpr (isClean_sanitize name)

/-- A name with the ending of bulletins is one that was sanitized. -/
theorem isClean_asPdf (name : List Char) : IsClean (asPdf name) := by
  unfold asPdf
  split
  · split <;> exact isClean_sanitize _
  · exact isClean_sanitize _

/-! ### Extensions -/

/-- An extension that adds no component and no point to the name of a file. -/
structure IsPlainExtension (ext : List Char) : Prop where
  nonempty : ext ≠ []
  allowed : ∀ c ∈ ext, c ∉ reserved ∧ isControl c = false
  noPoint : '.' ∉ ext

/-- An extension stands behind the last point, with something in front of that. -/
theorem extension?_eq_some (h : extension? name = some ext) :
    ∃ stem, stem ≠ [] ∧ ext ≠ [] ∧ '.' ∉ ext ∧ name = stem ++ '.' :: ext := by
  unfold extension? at h
  split at h
  · rename_i stem behind split
    obtain ⟨point, isPoint, whole, clear⟩ := splitLast_eq_some split
    obtain ⟨named, same⟩ := Option.ite_none_left_eq_some.mp h
    obtain rfl := Option.some.inj same
    obtain rfl : point = '.' := by simpa using isPoint
    have parts : stem ≠ [] ∧ behind ≠ [] := by simpa using named
    refine ⟨stem, parts.1, parts.2, fun inside => ?_, whole⟩
    exact absurd (clear '.' inside) (by decide)
  · cases h

/-- What follows a point with nothing but other characters behind it is an extension, if something
stands in front. -/
theorem extension?_append (stem : List Char) (nonempty : ext ≠ []) (noPoint : '.' ∉ ext) :
    extension? (stem ++ '.' :: ext) = if stem = [] then none else some ext := by
  have clear : ∀ c ∈ ext, (c == '.') = false := by
    intro c inside
    exact beq_eq_false_iff_ne.mpr (ne_of_mem_of_not_mem inside noPoint)
  have cut : splitLast (· == '.') (stem ++ '.' :: ext) = some (stem, ext) :=
    splitLast_append rfl stem clear
  rw [extension?, cut]
  simp [nonempty]

/-- What changes in lower case becomes one of the small letters. -/
theorem toLower_eq_or (c : Char) :
    c.toLower = c ∨ 97 ≤ c.toLower.toNat ∧ c.toLower.toNat ≤ 122 := by
  unfold Char.toLower
  split
  · rename_i upper
    right
    have least : 65 ≤ c.toNat := UInt32.le_iff_toNat_le.mp upper.1
    have greatest : c.toNat ≤ 90 := UInt32.le_iff_toNat_le.mp upper.2
    have value : (c.val + ('a'.val - 'A'.val)).toNat = c.toNat + 32 := by
      change (c.val.toNat + 32) % 4294967296 = c.val.toNat + 32
      change c.val.toNat ≤ 90 at greatest
      omega
    change 97 ≤ (c.val + ('a'.val - 'A'.val)).toNat ∧ (c.val + ('a'.val - 'A'.val)).toNat ≤ 122
    omega
  · exact .inl rfl

theorem allowed_toLower {c : Char} (h : c ∉ reserved ∧ isControl c = false) :
    c.toLower ∉ reserved ∧ isControl c.toLower = false := by
  rcases toLower_eq_or c with same | ⟨least, greatest⟩
  · rwa [same]
  · constructor
    · intro inside
      have apart : reserved.all (fun d => d.toNat < 97 || 122 < d.toNat) = true := by decide
      have outside := List.all_eq_true.mp apart _ inside
      simp only [Bool.or_eq_true, decide_eq_true_eq] at outside
      omega
    · simp [isControl]
      omega

/-- A clean name is stored under a plain extension. -/
theorem isPlainExtension_storedExtension (h : IsClean name) :
    IsPlainExtension (storedExtension name) := by
  unfold storedExtension
  cases ending : extension? name with
  | none =>
    exact ⟨by decide, allowed_of_all (by decide), by decide⟩
  | some ext =>
    obtain ⟨stem, -, nonempty, noPoint, rfl⟩ := extension?_eq_some ending
    constructor
    · simpa using nonempty
    · intro c inside
      obtain ⟨d, old, rfl⟩ := List.mem_map.mp inside
      exact allowed_toLower (h.allowed d (by simp [show d ∈ ext from old]))
    · intro inside
      obtain ⟨d, old, isPoint⟩ := List.mem_map.mp inside
      have old : d ∈ ext := old
      rcases toLower_eq_or d with same | small
      · exact noPoint (same.symm.trans isPoint ▸ old)
      · rw [isPoint] at small
        exact absurd small (by decide)

/-! ### The ending of bulletins -/

/-- What stands in front of the last point of a name, or all of it where there is none. -/
def stem (name : List Char) : List Char := ((splitLast (· == '.') name).map Prod.fst).getD name

/-- What changes in lower case is a capital letter. -/
theorem toLower_eq_self_or (c : Char) : c.toLower = c ∨ 65 ≤ c.toNat ∧ c.toNat ≤ 90 := by
  unfold Char.toLower
  split
  · rename_i upper
    exact .inr ⟨UInt32.le_iff_toNat_le.mp upper.1, UInt32.le_iff_toNat_le.mp upper.2⟩
  · exact .inl rfl

/-- Letters that spell the ending of bulletins, capital or small. -/
def IsEnding (ending : List Char) : Prop := ending.map Char.toLower = "pdf".toList

theorem IsEnding.plain {ending : List Char} (h : IsEnding ending) {c : Char} (inside : c ∈ ending) :
    c ≠ '.' ∧ isBlank c = false ∧ isForbidden c = false := by
  rcases toLower_eq_self_or c with same | ⟨least, greatest⟩
  · have letter : c ∈ "pdf".toList := h ▸ same ▸ List.mem_map_of_mem inside
    have plain : ("pdf".toList.all fun d => d != '.' && !isBlank d && !isForbidden d) = true := by
      decide
    simpa [and_assoc] using List.all_eq_true.mp plain c letter
  · have apart : reserved.all (fun d => d.toNat < 65 || 90 < d.toNat) = true := by decide
    refine ⟨?_, ?_, isForbidden_eq_false_iff.mpr ⟨fun among => ?_, ?_⟩⟩
    · rintro rfl
      exact absurd least (by decide)
    · simp [isBlank]
      omega
    · have outside := List.all_eq_true.mp apart c among
      simp only [Bool.or_eq_true, decide_eq_true_eq] at outside
      omega
    · simp [isControl]
      omega

/-- A name is given the ending of bulletins behind its stem, as it is written there or in small
letters. -/
theorem exists_asPdf (name : List Char) :
    ∃ ending, IsEnding ending ∧ asPdf name = sanitize (stem name ++ '.' :: ending) := by
  unfold asPdf stem
  split
  · rename_i front ending cut
    rw [cut, Option.map_some, Option.getD_some]
    split
    · rename_i spelled
      obtain ⟨point, isPoint, whole, -⟩ := splitLast_eq_some cut
      obtain rfl : point = '.' := by simpa using isPoint
      exact ⟨ending, beq_iff_eq.mp spelled, by rw [whole]⟩
    · exact ⟨"pdf".toList, rfl, rfl⟩
  · rename_i none
    rw [none]
    exact ⟨"pdf".toList, rfl, rfl⟩

theorem sanitize_ending (front : List Char) {ending : List Char} (h : IsEnding ending) :
    sanitize (front ++ '.' :: ending) = (trimStart front).map mend ++ '.' :: ending := by
  obtain ⟨blanks, blank, split⟩ := exists_trimStart front
  have solid : ∀ c ∈ ('.' :: ending).getLast?, isBlank c = false := by
    intro c last
    rcases List.mem_cons.mp (List.mem_of_getLast? last) with rfl | inside
    · decide
    · exact (h.plain inside).2.1
  have trimmed : trim (front ++ '.' :: ending) = trimStart front ++ '.' :: ending := by
    conv_lhs => rw [split, List.append_assoc, ← List.append_nil (blanks ++ _)]
    refine trim_append blank (by simp) (fun c head => ?_) (fun c last => ?_)
    · rw [List.head?_append] at head
      rcases Option.or_eq_some_iff.mp head with own | ⟨-, point⟩
      · exact isBlank_head_trimStart front c own
      · obtain rfl : '.' = c := by simpa using point
        decide
    · rw [List.getLast?_append_of_ne_nil _ (List.cons_ne_nil _ _)] at last
      exact solid c last
  have kept : ('.' :: ending).map mend = '.' :: ending := by
    refine (List.map_congr_left fun c inside => ?_).trans (List.map_id _)
    rcases List.mem_cons.mp inside with rfl | letter
    · decide
    · simp [mend, (h.plain letter).2.2]
  rw [sanitize_eq, trimmed, if_neg (by simp), List.map_append, kept]

/-- Something but blanks stands in front of the last point of a name. -/
def HasStem (name : List Char) : Prop := ∃ c ∈ stem name, isBlank c = false

instance (name : List Char) : Decidable (HasStem name) :=
  decidable_of_iff ((stem name).any (!isBlank ·) = true) (by simp [HasStem])

/-- A name with the ending of bulletins is stored under it, unless it is nothing else: what follows
a point in front is no extension. -/
theorem storedExtension_asPdf (name : List Char) : storedExtension (asPdf name) =
    if HasStem name then "pdf".toList else "bin".toList := by
  obtain ⟨ending, spelled, whole⟩ := exists_asPdf name
  have nonempty : ending ≠ [] := by
    rintro rfl
    cases spelled
  have noPoint : '.' ∉ ending := fun inside => (spelled.plain inside).1 rfl
  have empty : (trimStart (stem name)).map mend = [] ↔ ¬ HasStem name := by
    rw [List.map_eq_nil_iff, trimStart_eq_nil_iff, HasStem]
    simp
  rw [storedExtension, whole, sanitize_ending _ spelled, extension?_append _ nonempty noPoint]
  simp only [empty, ite_not]
  split
  · exact spelled
  · decide

end RouteAlerts.FileName
