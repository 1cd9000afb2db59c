import RouteAlerts.Proofs.Text.Piece
import RouteAlerts.Proofs.Text.Scan

/-!
Texts that differ in blanks which a reader passes over. Beside certain signs blanks do not matter,
and elsewhere it does not matter how many there are. `pack` has no blanks beside a sign and at the
end, and single spaces elsewhere. It works from the end of the text, so texts with one packed form
keep having one when something is put in front of them (`pack_append_congr`). Squeezing a text
changes only blanks at the front of its packed form (`pack_squeeze`), and a reader that reads alike
where the packed forms are the same finds the same first match in the texts
(`firstKey_congr_of_pack`).
-/

namespace RouteAlerts.Text

/-- A text with a space in front, unless it is empty or starts with a sign. -/
def spaced (isSign : Char → Bool) : List Char → List Char
  | [] => []
  | c :: s => if isSign c then c :: s else ' ' :: c :: s

/-- A packed text with a character put in front of it. -/
def prepend (isSign : Char → Bool) (c : Char) (packed : List Char) : List Char :=
  if isBlank c then spaced isSign (trimStart packed)
  else if isSign c then c :: trimStart packed
  else c :: packed

/-- A text without the blanks beside signs and at the end, and with single spaces elsewhere. -/
def pack (isSign : Char → Bool) (s : List Char) : List Char := s.foldr (prepend isSign) []

section Pack

variable {isSign : Char → Bool}

/-! ### What is packed -/

@[simp] theorem pack_nil : pack isSign [] = [] := rfl

theorem pack_append_congr {s t : List Char} (h : pack isSign s = pack isSign t) (u : List Char) :
    pack isSign (u ++ s) = pack isSign (u ++ t) := by
  unfold pack at h ⊢
  rw [List.foldr_append, List.foldr_append, h]

theorem pack_cons_of_blank {c : Char} (h : isBlank c = true) (s : List Char) :
    pack isSign (c :: s) = spaced isSign (trimStart (pack isSign s)) := by
  change prepend isSign c (pack isSign s) = _
  rw [prepend, if_pos h]

theorem pack_cons_of_sign {c : Char} (solid : isBlank c = false) (sign : isSign c = true)
    (s : List Char) : pack isSign (c :: s) = c :: trimStart (pack isSign s) := by
  change prepend isSign c (pack isSign s) = _
  rw [prepend, solid, sign]
  rfl

theorem pack_cons_of_plain {c : Char} (solid : isBlank c = false) (plain : isSign c = false)
    (s : List Char) : pack isSign (c :: s) = c :: pack isSign s := by
  change prepend isSign c (pack isSign s) = _
  rw [prepend, solid, plain]
  rfl

theorem trimStart_spaced (s : List Char) :
    trimStart (spaced isSign (trimStart s)) = trimStart s := by
  cases front : trimStart s with
  | nil => rfl
  | cons c t =>
    have own := trimStart_trimStart s
    rw [front] at own
    rw [spaced]
    split
    · exact own
    · rw [trimStart_cons_of_blank rfl, own]

/-- The blanks in front of a text are those in front of its packed form. -/
theorem trimStart_pack (s : List Char) :
    trimStart (pack isSign s) = pack isSign (trimStart s) := by
  induction s with
  | nil => rfl
  | cons c s ih =>
    by_cases blank : isBlank c = true
    · rw [pack_cons_of_blank blank, trimStart_spaced, ih, trimStart_cons_of_blank blank]
    · have solid : isBlank c = false := by simpa using blank
      rw [trimStart_cons_of_solid solid]
      by_cases sign : isSign c = true
      · rw [pack_cons_of_sign solid sign, trimStart_cons_of_solid solid]
      · rw [pack_cons_of_plain solid (by simpa using sign), trimStart_cons_of_solid solid]

theorem pack_cons_ne_nil {c : Char} (solid : isBlank c = false) (s : List Char) :
    pack isSign (c :: s) ≠ [] := by
  by_cases sign : isSign c = true
  · simp [pack_cons_of_sign solid sign]
  · simp [pack_cons_of_plain solid (by simpa using sign)]

/-- Characters that are neither blanks nor signs are packed as they are. -/
theorem pack_plain_append {run : List Char}
    (plain : ∀ c ∈ run, isBlank c = false ∧ isSign c = false) (s : List Char) :
    pack isSign (run ++ s) = run ++ pack isSign s := by
  induction run with
  | nil => rfl
  | cons c run ih =>
    obtain ⟨solid, unsigned⟩ := plain c List.mem_cons_self
    rw [List.cons_append, pack_cons_of_plain solid unsigned,
      ih fun d hd => plain d (List.mem_cons_of_mem c hd), List.cons_append]

/-- A sign is packed without the blanks on either side of it. -/
theorem pack_blank_append_sign {gap : List Char} {c : Char} (blank : ∀ d ∈ gap, isBlank d = true)
    (solid : isBlank c = false) (sign : isSign c = true) (s : List Char) :
    pack isSign (gap ++ c :: s) = c :: pack isSign (trimStart s) := by
  induction gap with
  | nil => rw [List.nil_append, pack_cons_of_sign solid sign, trimStart_pack]
  | cons d gap ih =>
    have rest := ih fun e he => blank e (List.mem_cons_of_mem d he)
    rw [List.cons_append, pack_cons_of_blank (blank d List.mem_cons_self), rest,
      trimStart_cons_of_solid solid, spaced, if_pos sign]

/-! ### What was packed -/

/-- A character that is neither blank nor a sign stands where the packed text has it. -/
theorem exists_of_pack_eq_plain {t rest : List Char} {c : Char} (solid : isBlank c = false)
    (plain : isSign c = false) (h : pack isSign t = c :: rest) :
    ∃ t', t = c :: t' ∧ pack isSign t' = rest := by
  cases t with
  | nil => cases h
  | cons d t =>
    by_cases blank : isBlank d = true
    · rw [pack_cons_of_blank blank] at h
      -- The first character would be a sign or a space.
      cases front : trimStart (pack isSign t) with
      | nil =>
        rw [front] at h
        cases h
      | cons e more =>
        rw [front, spaced] at h
        split at h
        · rename_i sign
          rw [(List.cons.inj h).1, plain] at sign
          cases sign
        · rw [← (List.cons.inj h).1] at solid
          cases solid
    · have dSolid : isBlank d = false := by simpa using blank
      by_cases sign : isSign d = true
      · rw [pack_cons_of_sign dSolid sign] at h
        rw [(List.cons.inj h).1, plain] at sign
        cases sign
      · rw [pack_cons_of_plain dSolid (by simpa using sign)] at h
        obtain ⟨rfl, rfl⟩ := List.cons.inj h
        exact ⟨t, rfl, rfl⟩

theorem exists_of_pack_eq_append {t run rest : List Char}
    (plain : ∀ c ∈ run, isBlank c = false ∧ isSign c = false) (h : pack isSign t = run ++ rest) :
    ∃ t', t = run ++ t' ∧ pack isSign t' = rest := by
  induction run generalizing t with
  | nil => exact ⟨t, rfl, h⟩
  | cons c run ih =>
    obtain ⟨solid, unsigned⟩ := plain c List.mem_cons_self
    obtain ⟨u, rfl, behind⟩ := exists_of_pack_eq_plain solid unsigned h
    obtain ⟨t', rfl, packed⟩ := ih (fun d hd => plain d (List.mem_cons_of_mem c hd)) behind
    exact ⟨t', rfl, packed⟩

/-- A sign stands where the packed text has it, with blanks on either side. -/
theorem exists_of_pack_eq_sign {t rest : List Char} {c : Char} (solid : isBlank c = false)
    (sign : isSign c = true) (h : pack isSign t = c :: rest) :
    ∃ gap t', (∀ d ∈ gap, isBlank d = true) ∧ t = gap ++ c :: t' ∧
      pack isSign (trimStart t') = rest := by
  have front : pack isSign (trimStart t) = c :: rest := by
    rw [← trimStart_pack, h, trimStart_cons_of_solid solid]
  obtain ⟨gap, blank, whole⟩ := exists_trimStart t
  cases behind : trimStart t with
  | nil =>
    rw [behind] at front
    cases front
  | cons d t' =>
    have dSolid : isBlank d = false := isBlank_head_trimStart t d (by simp [behind])
    rw [behind] at front whole
    by_cases dSign : isSign d = true
    · rw [pack_cons_of_sign dSolid dSign, trimStart_pack] at front
      obtain ⟨rfl, rfl⟩ := List.cons.inj front
      exact ⟨gap, t', blank, whole, rfl⟩
    · rw [pack_cons_of_plain dSolid (by simpa using dSign)] at front
      rw [(List.cons.inj front).1] at dSign
      exact absurd sign dSign

/-! ### Squeezed texts -/

theorem pack_eq_nil_of_blank {s : List Char} (h : ∀ c ∈ s, isBlank c = true) :
    pack isSign s = [] := by
  induction s with
  | nil => rfl
  | cons c s ih =>
    rw [pack_cons_of_blank (h c List.mem_cons_self), ih fun d hd => h d (List.mem_cons_of_mem c hd)]
    rfl

/-- What starts with a blank has nothing else in front of its first word. -/
theorem spaced_trimStart_pack {s : List Char} (h : ∀ c ∈ s.head?, isBlank c = true) :
    spaced isSign (trimStart (pack isSign s)) = pack isSign s := by
  cases s with
  | nil => rfl
  | cons c s => rw [pack_cons_of_blank (h c rfl), trimStart_spaced]

/-- Squeezing takes out blanks at the front, and no other ones that are packed. -/
theorem pack_squeeze (s : List Char) : pack isSign (squeeze s) = pack isSign (trimStart s) := by
  -- Word by word: what is left behind the first word is shorter, but no tail of the text in general
  -- starts a word.
  induction h : s.length using Nat.strong_induction_on generalizing s with
  | _ n ih =>
    subst h
    by_cases blank : strip s = []
    · have none : trimStart s = [] := trimStart_eq_nil_iff.mpr (strip_eq_nil_iff.mp blank)
      rw [squeeze, words_eq_nil_iff.mpr blank, none]
      rfl
    · obtain ⟨w, rest, split, isWord, stop, first⟩ := exists_first_word blank
      have shorter : rest.length < s.length := by
        have whole := (List.dropWhile_suffix isBlank (l := s)).length_le
        change (trimStart s).length ≤ s.length at whole
        have := List.length_pos_iff.mpr isWord.1
        rw [split, List.length_append] at whole
        omega
      have behind := ih rest.length shorter rest rfl
      rw [split, squeeze, first]
      cases more : words rest with
      | nil =>
        have restBlank := strip_eq_nil_iff.mp (words_eq_nil_iff.mp more)
        have none : pack isSign [] = pack isSign rest := (pack_eq_nil_of_blank restBlank).symm
        simpa [joinWith] using pack_append_congr none w
      | cons v vs =>
        have same : pack isSign (' ' :: squeeze rest) = pack isSign rest := by
          rw [pack_cons_of_blank rfl, behind, ← trimStart_pack, trimStart_trimStart,
            spaced_trimStart_pack stop]
        have joined : joinWith [' '] (w :: v :: vs) = w ++ ' ' :: squeeze rest := by
          rw [squeeze, more, joinWith, List.append_assoc]
          · rfl
          · simp
        rw [joined]
        exact pack_append_congr same w

/-! ### First matches -/

section FirstMatch

variable {α β : Type} {r : Reader α} {key : α → β}

/-- The first match of a reader, as far as it shows. -/
def firstKey (r : Reader α) (key : α → β) (s : List Char) : Option β :=
  (firstMatch r s).map fun (_, a, _) => key a

theorem firstKey_cons {c : Char} {s : List Char} (missed : r (c :: s) = none) :
    firstKey r key (c :: s) = firstKey r key s := by
  have silent : Silent r [c] s := silent_cons.mpr ⟨missed, silent_nil s⟩
  rw [firstKey, ← List.singleton_append, firstMatch_silent silent, Option.map_map]
  rfl

/-- Blanks and signs are passed over by a reader that starts with neither. -/
theorem firstKey_append (needs : ∀ c s, isBlank c = true ∨ isSign c = true → r (c :: s) = none)
    {gap : List Char} (passed : ∀ c ∈ gap, isBlank c = true ∨ isSign c = true) (s : List Char) :
    firstKey r key (gap ++ s) = firstKey r key s := by
  induction gap with
  | nil => rfl
  | cons c gap ih =>
    rw [List.cons_append, firstKey_cons (needs c _ (passed c List.mem_cons_self)),
      ih fun d hd => passed d (List.mem_cons_of_mem c hd)]

theorem firstKey_trimStart (needs : ∀ c s, isBlank c = true ∨ isSign c = true → r (c :: s) = none)
    (s : List Char) : firstKey r key (trimStart s) = firstKey r key s := by
  obtain ⟨gap, blank, split⟩ := exists_trimStart s
  have passed : firstKey r key (gap ++ trimStart s) = firstKey r key (trimStart s) :=
    firstKey_append needs (fun c hc => .inl (blank c hc)) (trimStart s)
  rw [← passed, ← split]

/-- A reader that starts neither with a blank nor with a sign, and that reads alike where texts have
one packed form, finds the same first match in texts that differ in such blanks only. -/
theorem firstKey_congr_of_pack
    (needs : ∀ c s, isBlank c = true ∨ isSign c = true → r (c :: s) = none)
    (alike : ∀ s t a rest, pack isSign s = pack isSign t → r s = some (a, rest) →
      ∃ b behind, r t = some (b, behind) ∧ key b = key a)
    {s t : List Char} (h : pack isSign (trimStart s) = pack isSign (trimStart t)) :
    firstKey r key s = firstKey r key t := by
  -- On the first text; the second one is brought to the same place by way of its packed form.
  induction s generalizing t with
  | nil =>
    have none : trimStart t = [] := by
      by_contra nonempty
      obtain ⟨d, rest, split⟩ := List.exists_cons_of_ne_nil nonempty
      rw [split] at h
      exact pack_cons_ne_nil (isBlank_head_trimStart t d (by simp [split])) rest h.symm
    rw [← firstKey_trimStart needs t, none]
  | cons c s ih =>
    by_cases blank : isBlank c = true
    · rw [trimStart_cons_of_blank blank] at h
      rw [firstKey_cons (needs c s (.inl blank)), ih h]
    · have solid : isBlank c = false := by simpa using blank
      rw [trimStart_cons_of_solid solid] at h
      rw [← firstKey_trimStart needs t]
      by_cases sign : isSign c = true
      · rw [pack_cons_of_sign solid sign, trimStart_pack] at h
        obtain ⟨gap, t', gapBlank, split, same⟩ := exists_of_pack_eq_sign solid sign h.symm
        rw [split, firstKey_append needs fun d hd => .inl (gapBlank d hd),
          firstKey_cons (needs c s (.inr sign)), firstKey_cons (needs c t' (.inr sign))]
        exact ih same.symm
      · have plain : isSign c = false := by simpa using sign
        have whole := h
        rw [pack_cons_of_plain solid plain] at h
        obtain ⟨t', split, same⟩ := exists_of_pack_eq_plain solid plain h.symm
        rw [split] at whole ⊢
        -- Both texts go on with one character here, so the reader reads in both or in neither.
        cases read : r (c :: s) with
        | some found =>
          obtain ⟨b, behind, read', eq⟩ := alike _ _ _ _ whole read
          simp [firstKey, firstMatch, read, read', eq]
        | none =>
          have missed : r (c :: t') = none := by
            refine Option.eq_none_iff_forall_not_mem.mpr fun found read' => ?_
            obtain ⟨b, behind, again, -⟩ := alike _ _ _ _ whole.symm read'
            rw [read] at again
            cases again
          rw [firstKey_cons read, firstKey_cons missed]
          refine ih ?_
          rw [← trimStart_pack, ← trimStart_pack, same]

end FirstMatch

end Pack

end RouteAlerts.Text
