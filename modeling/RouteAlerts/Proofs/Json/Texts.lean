import RouteAlerts.Json.Printer
import RouteAlerts.Proofs.Json.Grammar

/-!
Lists of texts as JSON. What is written between quotes is spelled as the grammar has it
(`stringText_quote`), so a list of texts that is written on one line is read back, whatever
characters the texts hold (`readTexts_compact`). What is read from any JSON text is shorter than it
(`length_lt_of_readTexts`).
-/

namespace RouteAlerts.Json

open Text

/-! ### Characters between quotes -/

/-- Whether a piece of a string stands for a character: the character itself, or the number of a
control character. -/
def Piece.Shows (p : Piece) (c : Char) : Prop :=
  p = .char c ∨ c.toNat < 0x20 ∧ p = .unit c.toNat

theorem hexValue?_digitChar : ∀ n < 16, hexValue? (some (Nat.digitChar n)) = some n := by
  decide

/-- A character is written as a piece that stands for it. -/
theorem exists_pieceText (c : Char) : ∃ p : Piece, p.Shows c ∧ PieceText p (escapeChar c) := by
  unfold escapeChar
  split
  · exact ⟨.char '"', .inl rfl, .letter rfl⟩
  · exact ⟨.char '\\', .inl rfl, .letter rfl⟩
  · exact ⟨.char '\x08', .inl rfl, .letter rfl⟩
  · exact ⟨.char '\x0c', .inl rfl, .letter rfl⟩
  · exact ⟨.char '\n', .inl rfl, .letter rfl⟩
  · exact ⟨.char '\r', .inl rfl, .letter rfl⟩
  · exact ⟨.char '\t', .inl rfl, .letter rfl⟩
  · rename_i quote backslash _ _ _ _ _
    split
    · rename_i control
      have high := hexValue?_digitChar (c.toNat / 16) (by omega)
      have low := hexValue?_digitChar (c.toNat % 16) (by omega)
      have zero : hexValue? (some '0') = some 0 := rfl
      have value : ((0 * 16 + 0) * 16 + c.toNat / 16) * 16 + c.toNat % 16 = c.toNat := by omega
      have written := PieceText.number zero zero high low
      rw [value] at written
      exact ⟨.unit c.toNat, .inr ⟨control, rfl⟩, written⟩
    · rename_i printable
      exact ⟨.char c, .inl rfl, .plain quote backslash printable⟩

/-! ### Texts between quotes -/

/-- The number of a control character is not half of a pair. -/
theorem textOf?_unit {n : Nat} (control : n < 0x20) (ps : List Piece) :
    textOf? (.unit n :: ps) = (textOf? ps).map (Char.ofNat n :: ·) := by
  have below : ¬ 0xD800 ≤ n := by omega
  have belowLow : ¬ 0xDC00 ≤ n := by omega
  cases ps with
  | nil => simp [textOf?, below]
  | cons p ps =>
    cases p with
    | char c => simp [textOf?, below]
    | unit low => simp [textOf?, below, belowLow]
    | noise => simp [textOf?, below]

/-- The pieces that stand for the characters of a text make it up. -/
theorem textOf?_of_shows {ps : List Piece} {s : List Char} (h : List.Forall₂ Piece.Shows ps s) :
    textOf? ps = some s := by
  induction h with
  | nil => simp [textOf?]
  | @cons p c ps s shows _ ih =>
    rcases shows with rfl | ⟨control, rfl⟩
    · rw [textOf?, ih]
      rfl
    · rw [textOf?_unit control, ih, Char.ofNat_toNat]
      rfl

/-- A text between quotes is spelled as a string. -/
theorem stringText_quote (s : List Char) : StringText (some s) (quote s) := by
  have spelled : ∃ ps, List.Forall₂ Piece.Shows ps s ∧
      List.Forall₂ PieceText ps (s.map escapeChar) := by
    induction s with
    | nil => exact ⟨[], .nil, .nil⟩
    | cons c s ih =>
      obtain ⟨p, own, first⟩ := exists_pieceText c
      obtain ⟨ps, shown, others⟩ := ih
      exact ⟨p :: ps, .cons own shown, .cons first others⟩
  obtain ⟨ps, shown, written⟩ := spelled
  have string := StringText.mk written
  rwa [textOf?_of_shows shown, ← List.flatMap_def] at string

/-! ### Lists of texts -/

theorem writes_quotes {texts : List (List Char)} (nonempty : texts ≠ []) :
    Writes (.items (texts.map fun s => .string (some s))) (joinWith [','] (texts.map quote)) := by
  induction texts with
  | nil => exact absurd rfl nonempty
  | cons s texts ih =>
    have first := Writes.bare (.string (stringText_quote s))
    cases texts with
    | nil => exact .lastItem first
    | cons t texts => simpa [joinWith] using Writes.item first (ih (by simp))

theorem compactItems_map_string (texts : List (List Char)) :
    compactItems (texts.map .string) = texts.map quote := by
  induction texts with
  | nil => rfl
  | cons s texts ih => rw [List.map_cons, compactItems, ih, compact, List.map_cons]

theorem readText_compact (texts : List (List Char)) :
    readText (compact (.array (texts.map .string))) =
      some (.array (texts.map fun s => .string (some s))) := by
  cases texts with
  | nil => rfl
  | cons s texts =>
    have written := Writes.array (writes_quotes (List.cons_ne_nil s texts))
    rw [compact, compactItems_map_string]
    exact readText_of_writes written.bare

def readTexts (s : List Char) : Option (List (List Char)) :=
  (readText s).bind (list (textOf some))

/-- A list of texts is read back as it was written, whatever characters the texts hold. -/
theorem readTexts_compact (texts : List (List Char)) :
    readTexts (compact (.array (texts.map .string))) = some texts := by
  have decoded : list (textOf some) (.array (texts.map fun s => .string (some s))) =
      some texts := by
    rw [list, List.mapM_map]
    exact (List.mapM_pure (m := Option) (f := id)).trans (congrArg some (List.map_id texts))
  rw [readTexts, readText_compact, Option.bind_some, decoded]

/-! ### Lengths -/

/-- Every piece takes up something of the string. -/
theorem length_lt_of_pieces {s rest : Units} {ps : List Piece} (h : pieces s = some (ps, rest)) :
    ps.length + rest.length < s.length := by
  fun_induction pieces s generalizing ps rest with
  | case1 => cases h
  | case2 s =>
    obtain ⟨rfl, rfl⟩ : [] = ps ∧ s = rest := by simpa using h
    simp
  | case3 a b c d s ih =>
    simp only [Option.bind_eq_bind, Option.bind_eq_some_iff] at h
    obtain ⟨_, _, _, _, _, _, _, _, ⟨later, tail⟩, read, eq⟩ := h
    have shorter := ih read
    grind
  | case4 e s _ ih =>
    simp only [Option.bind_eq_bind, Option.bind_eq_some_iff] at h
    obtain ⟨_, _, ⟨later, tail⟩, read, eq⟩ := h
    have shorter := ih read
    grind
  | case5 => cases h
  | case6 c s _ _ _ _ ih =>
    obtain ⟨⟨later, tail⟩, read, eq⟩ := Option.map_eq_some_iff.mp h
    have shorter := ih read
    grind
  | case7 s ih =>
    obtain ⟨⟨later, tail⟩, read, eq⟩ := Option.map_eq_some_iff.mp h
    have shorter := ih read
    grind

/-- No piece makes more than one character. -/
theorem length_le_of_textOf? {ps : List Piece} {t : List Char} (h : textOf? ps = some t) :
    t.length ≤ ps.length := by
  have grown : ∀ {c : Char} {u? : Option (List Char)} {t : List Char} {n : Nat},
      (∀ {u}, u? = some u → u.length ≤ n) → u?.map (c :: ·) = some t → t.length ≤ n + 1 := by
    intro c u? t n bound made
    obtain ⟨u, hu, rfl⟩ := Option.map_eq_some_iff.mp made
    exact Nat.succ_le_succ (bound hu)
  fun_induction textOf? ps generalizing t with
  | case1 =>
    obtain rfl := Option.some.inj h
    simp
  | case2 c ps ih => exact grown ih h
  | case3 => cases h
  | case4 high low ps _ _ ih => exact Nat.le_succ_of_le (grown ih h)
  | case5 => cases h
  | case6 => cases h
  | case7 high low ps _ _ ih => exact grown ih h
  | case8 => cases h
  | case9 n ps _ _ ih => exact grown ih h

theorem length_skipBlanks_le (s : Units) : (skipBlanks s).length ≤ s.length := by
  fun_induction skipBlanks s <;> grind

/-- What is read of one kind is no value of another. -/
theorem map_ne_of_kind {β : Type} {made : Option β} {f : β → Raw × Units} {v : Raw} {rest : Units}
    (kind : ∀ b, (f b).1 ≠ v) : made.map f ≠ some (v, rest) := by
  intro eq
  obtain ⟨b, -, eq⟩ := Option.map_eq_some_iff.mp eq
  exact kind b (congrArg Prod.fst eq)

/-- A text is read from behind a quote and nowhere else. -/
theorem exists_string_of_value {fuel : Nat} {s rest : Units} {t? : Option (List Char)}
    (h : value fuel s = some (.string t?, rest)) :
    ∃ body, skipBlanks s = some '"' :: body ∧ string body = some (t?, rest) := by
  cases fuel with
  | zero => cases h
  | succ fuel =>
    rw [value] at h
    split at h
    · exact absurd h (map_ne_of_kind fun b => by simp)
    · exact absurd h (map_ne_of_kind fun b => by simp)
    · exact absurd h (map_ne_of_kind fun b => by simp)
    · rename_i body front
      obtain ⟨⟨_, _⟩, read, eq⟩ := Option.map_eq_some_iff.mp h
      cases eq
      exact ⟨body, front, read⟩
    · split at h
      · cases h
      · exact absurd h (map_ne_of_kind fun b => by simp)
    · split at h
      · cases h
      · exact absurd h (map_ne_of_kind fun b => by simp)
    · exact absurd h (map_ne_of_kind fun b => by simp)

/-- An array is read from behind a bracket and nowhere else. -/
theorem exists_items_of_value {fuel : Nat} {s rest : Units} {vs : List Raw}
    (h : value fuel s = some (.array vs, rest)) :
    vs = [] ∨ ∃ more body, body.length < s.length ∧ items more body = some (vs, rest) := by
  cases fuel with
  | zero => cases h
  | succ fuel =>
    have blanks := length_skipBlanks_le s
    rw [value] at h
    split at h
    · exact absurd h (map_ne_of_kind fun b => by simp)
    · exact absurd h (map_ne_of_kind fun b => by simp)
    · exact absurd h (map_ne_of_kind fun b => by simp)
    · exact absurd h (map_ne_of_kind fun b => by simp)
    · -- The other openings lead to values of other kinds.
      rename_i body front
      rw [front, List.length_cons] at blanks
      split at h
      · obtain ⟨rfl, -⟩ : [] = vs ∧ _ = rest := by simpa using h
        exact .inl rfl
      · obtain ⟨⟨_, _⟩, read, eq⟩ := Option.map_eq_some_iff.mp h
        cases eq
        have inner := length_skipBlanks_le body
        exact .inr ⟨fuel, _, by omega, read⟩
    · split at h
      · cases h
      · exact absurd h (map_ne_of_kind fun b => by simp)
    · exact absurd h (map_ne_of_kind fun b => by simp)

/-- A text that is read as a value is shorter than what it was read from. -/
theorem length_lt_of_value {fuel : Nat} {s rest : Units} {t : List Char}
    (h : value fuel s = some (.string (some t), rest)) : t.length + rest.length < s.length := by
  obtain ⟨body, front, read⟩ := exists_string_of_value h
  obtain ⟨⟨ps, behind⟩, taken, eq⟩ := Option.map_eq_some_iff.mp read
  obtain ⟨made, rfl⟩ : textOf? ps = some t ∧ behind = rest := by simpa using eq
  have own := length_lt_of_pieces taken
  have characters := length_le_of_textOf? made
  have blanks := length_skipBlanks_le s
  rw [front, List.length_cons] at blanks
  omega

theorem eq_of_textOf_some {v : Raw} {t : List Char} (h : textOf some v = some t) :
    v = .string (some t) := by
  unfold textOf at h
  split at h
  · rw [Option.some.inj h]
  · cases h

/-- The texts of a list are shorter than what they were read from. -/
theorem length_lt_of_items {fuel : Nat} {s rest : Units} {vs : List Raw} {texts : List (List Char)}
    (h : items fuel s = some (vs, rest)) (decoded : vs.mapM (textOf some) = some texts) :
    ∀ t ∈ texts, t.length < s.length := by
  induction fuel generalizing s rest vs texts with
  | zero => cases h
  | succ fuel ih =>
    rw [items] at h
    split at h
    · cases h
    · rename_i v behind read
      have blanks := length_skipBlanks_le behind
      split at h
      · obtain ⟨rfl, rfl⟩ : [v] = vs ∧ _ = rest := by simpa using h
        obtain ⟨t, own, rfl⟩ : ∃ t, textOf some v = some t ∧ [t] = texts := by
          simpa [Option.bind_eq_some_iff] using decoded
        rw [eq_of_textOf_some own] at read
        have shorter := length_lt_of_value read
        intro u hu
        obtain rfl := List.mem_singleton.mp hu
        omega
      · rename_i tail front
        rw [front, List.length_cons] at blanks
        obtain ⟨⟨others, _⟩, later, eq⟩ := Option.map_eq_some_iff.mp h
        obtain ⟨rfl, rfl⟩ : v :: others = vs ∧ _ = rest := by simpa using eq
        obtain ⟨t, own, us, decodedOthers, rfl⟩ : ∃ t, textOf some v = some t ∧
            ∃ us, others.mapM (textOf some) = some us ∧ t :: us = texts := by
          simpa [List.mapM_cons, Option.bind_eq_some_iff] using decoded
        rw [eq_of_textOf_some own] at read
        have shorter := length_lt_of_value read
        intro u hu
        rcases List.mem_cons.mp hu with rfl | inOthers
        · omega
        · have rest := ih later decodedOthers u inOthers
          omega
      · cases h

/-- The texts of an array are shorter than the text it was read from. -/
theorem length_lt_of_readTexts {s : List Char} {texts : List (List Char)}
    (h : readTexts s = some texts) : ∀ t ∈ texts, t.length < s.length := by
  obtain ⟨v, read, decoded⟩ := Option.bind_eq_some_iff.mp h
  rw [readText, readUnits] at read
  split at read
  · rename_i whole rest value
    obtain ⟨-, rfl⟩ : _ ∧ whole = v := by simpa using read
    unfold list at decoded
    split at decoded
    · rename_i vs
      rcases exists_items_of_value value with rfl | ⟨more, body, shorter, items⟩
      · obtain rfl : [] = texts := by simpa using decoded
        simp
      · intro t ht
        have inBody := length_lt_of_items items decoded t ht
        rw [List.length_map] at shorter
        omega
    · cases decoded
  · cases read

end RouteAlerts.Json
