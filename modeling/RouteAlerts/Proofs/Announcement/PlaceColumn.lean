import RouteAlerts.Announcement.PlaceColumn
import RouteAlerts.Proofs.Json.Texts
import RouteAlerts.Proofs.Text.Piece

/-!
Which places come back out of their column. Several places always do, whatever characters they hold,
since they are written as an array. A lone place is written as it is, so it does not come back when
it looks like an array itself: whatever is read from between brackets is shorter than the column
(`length_lt_of_mem_read`).
-/

namespace RouteAlerts.PlaceColumn

open Text Json

/-- A place as the readers of the sources leave it: it holds something and has no blanks around
it. -/
def IsToken (p : List Char) : Prop := p ≠ [] ∧ trim p = p

instance (p : List Char) : Decidable (IsToken p) := inferInstanceAs (Decidable (_ ∧ _))

/-- A column that is read as an array. -/
def Bracketed (column : List Char) : Prop := column.head? = some '[' ∧ column.getLast? = some ']'

/-! ### Tidying -/

theorem isToken_of_mem_tidy {texts : List (List Char)} {p : List Char} (h : p ∈ tidy texts) :
    IsToken p := by
  obtain ⟨made, nonempty⟩ := List.mem_filter.mp h
  obtain ⟨text, -, rfl⟩ := List.mem_map.mp made
  exact ⟨by simpa using nonempty, trim_trim text⟩

theorem tidy_eq_self {texts : List (List Char)} (h : ∀ p ∈ texts, IsToken p) :
    tidy texts = texts := by
  have trimmed : texts.map trim = texts :=
    (List.map_congr_left fun p hp => (h p hp).2).trans (List.map_id texts)
  rw [tidy, trimmed]
  exact List.filter_eq_self.mpr fun p hp => by simpa using (h p hp).1

theorem length_le_of_mem_tidy {texts : List (List Char)} {p : List Char} (h : p ∈ tidy texts) :
    ∃ text ∈ texts, p.length ≤ text.length := by
  obtain ⟨made, -⟩ := List.mem_filter.mp h
  obtain ⟨text, mem, rfl⟩ := List.mem_map.mp made
  have stands := trim_infix text
  exact ⟨text, mem, stands.length_le⟩

/-! ### Columns of both kinds -/

theorem Bracketed.trim_eq_self {column : List Char} (h : Bracketed column) :
    trim column = column := by
  refine Text.trim_eq_self ?_ ?_
  · rw [h.1]
    intro c hc
    obtain rfl : '[' = c := by simpa using hc
    decide
  · rw [h.2]
    intro c hc
    obtain rfl : ']' = c := by simpa using hc
    decide

theorem Bracketed.read_eq {column : List Char} (h : Bracketed column) :
    read column = (readTexts column).elim (readBroken column) tidy := by
  have nonempty : column.isEmpty = false := by
    cases column with
    | nil => cases h.1
    | cons => rfl
  rw [read, h.trim_eq_self]
  simp only [nonempty, h.1, h.2, Bool.false_eq_true, if_false, beq_self_eq_true, Bool.and_self,
    if_true]
  rw [readTexts]
  cases (readText column).bind (list (textOf some)) <;> rfl

theorem read_of_not_bracketed {column : List Char} (token : IsToken column)
    (h : ¬ Bracketed column) : read column = [column] := by
  obtain ⟨nonempty, trimmed⟩ := token
  rw [read, trimmed]
  simp only [Bracketed] at h
  simp [nonempty, h]

/-- Whatever column is read, its places are tokens. -/
theorem isToken_of_mem_read {column p : List Char} (h : p ∈ read column) : IsToken p := by
  rw [read] at h
  split at h
  · cases h
  · rename_i nonempty
    split at h
    · split at h
      · exact isToken_of_mem_tidy h
      · exact isToken_of_mem_tidy h
    · obtain rfl := List.mem_singleton.mp h
      exact ⟨by simpa using nonempty, trim_trim column⟩

/-! ### Lengths -/

/-- An element at the front that satisfies `p` is gone. -/
theorem length_trimWhere_lt {p : Char → Bool} {c : Char} (hc : p c = true) (s : List Char) :
    (trimWhere p (c :: s)).length < (c :: s).length := by
  calc (trimWhere p (c :: s)).length ≤ ((c :: s).dropWhile p).length := length_dropEndWhile_le ..
    _ = (s.dropWhile p).length := by rw [List.dropWhile_cons_of_pos hc]
    _ ≤ s.length := (List.dropWhile_suffix p).length_le
    _ < (c :: s).length := Nat.lt_succ_self _

theorem length_lt_of_mem_readBroken {column p : List Char} (h : Bracketed column)
    (mem : p ∈ readBroken column) : p.length < column.length := by
  obtain ⟨rest, rfl⟩ : ∃ rest, column = '[' :: rest := List.head?_eq_some_iff.mp h.1
  obtain ⟨text, made, shorter⟩ := length_le_of_mem_tidy mem
  obtain ⟨piece, cut, rfl⟩ := List.mem_map.mp made
  have inBody := (of_mem_splitWhere cut).1.length_le
  calc p.length ≤ (piece.filter _).length := shorter
    _ ≤ piece.length := List.length_filter_le ..
    _ ≤ _ := inBody
    _ < ('[' :: rest).length := length_trimWhere_lt rfl rest

/-- Between brackets there is room for something shorter only. -/
theorem length_lt_of_mem_read {column p : List Char} (h : Bracketed column)
    (mem : p ∈ read column) : p.length < column.length := by
  rw [h.read_eq] at mem
  cases texts : readTexts column with
  | none =>
    rw [texts] at mem
    exact length_lt_of_mem_readBroken h mem
  | some texts' =>
    rw [texts] at mem
    obtain ⟨text, inArray, shorter⟩ := length_le_of_mem_tidy mem
    exact Nat.lt_of_le_of_lt shorter (length_lt_of_readTexts texts text inArray)

/-! ### Written columns -/

theorem bracketed_compact (vs : List (Value (List Char))) : Bracketed (compact (.array vs)) := by
  exact ⟨rfl, List.getLast?_concat ..⟩

/-- Several places are written as an array and come back out of it. -/
theorem read_compact {places : List (List Char)} (tokens : ∀ p ∈ places, IsToken p) :
    read (compact (.array (places.map .string))) = places := by
  rw [(bracketed_compact _).read_eq, readTexts_compact]
  exact tidy_eq_self tokens

/-- Places come back out of the column they are written to exactly when they are tokens, and a lone
one among them does not look like an array. -/
theorem read_write_iff (places : List (List Char)) : read (write places) = places ↔
    (∀ p ∈ places, IsToken p) ∧ ∀ p, places = [p] → ¬ Bracketed p := by
  constructor
  · intro back
    constructor
    · intro p hp
      rw [← back] at hp
      exact isToken_of_mem_read hp
    · rintro p rfl bracketed
      have shorter := @length_lt_of_mem_read p p bracketed (by
        rw [show read p = [p] from back]
        exact List.mem_singleton_self p)
      exact Nat.lt_irrefl _ shorter
  · rintro ⟨tokens, plain⟩
    match places with
    | [] => rfl
    | [p] => exact read_of_not_bracketed (tokens p List.mem_cons_self) (plain p rfl)
    | p :: q :: others => exact read_compact tokens

/-- A lone place between brackets comes back without them. -/
theorem read_write_bracketed : ¬ ∀ places : List (List Char), (∀ p ∈ places, IsToken p) →
    read (write places) = places := by
  intro h
  have back := h ["[광화문]".toList] (by decide)
  have found : read (write ["[광화문]".toList]) = ["광화문".toList] := by decide +kernel
  rw [found] at back
  revert back
  decide

end RouteAlerts.PlaceColumn
