import RouteAlerts.Proofs.Text.Digits

/-!
The order of texts, character by character. Texts with fronts of one length compare by the fronts
first, and numbers of one width compare as numbers (`padded_append_lt_iff`), so a text of such
numbers with marks between them compares number by number.
-/

namespace RouteAlerts.Text

/-- Texts with fronts of one length compare by their fronts, and behind equal fronts by the rest. -/
theorem append_lt_append_iff {s t x y : List Char} (length : s.length = t.length) :
    s ++ x < t ++ y ↔ s < t ∨ s = t ∧ x < y := by
  induction s generalizing t with
  | nil =>
    obtain rfl := List.length_eq_zero_iff.mp length.symm
    simp
  | cons a s ih =>
    cases t with
    | nil => cases length
    | cons b t =>
      simp only [List.cons_append, List.cons_lt_cons_iff, List.cons.injEq, ih (Nat.succ.inj length)]
      constructor
      · rintro (less | ⟨eq, less | ⟨same, less⟩⟩)
        · exact .inl (.inl less)
        · exact .inl (.inr ⟨eq, less⟩)
        · exact .inr ⟨⟨eq, same⟩, less⟩
      · rintro ((less | ⟨eq, less⟩) | ⟨⟨eq, same⟩, less⟩)
        · exact .inl less
        · exact .inr ⟨eq, .inl less⟩
        · exact .inr ⟨eq, .inr ⟨same, less⟩⟩

/-! ### Numbers of one width -/

theorem digitsToNat_cons (c : Char) (s : List Char) :
    digitsToNat (c :: s) = Nat.pow 10 s.length * (c.toNat - 48) + digitsToNat s := by
  rw [← List.singleton_append, digitsToNat_append]
  simp [digitsToNat]

theorem digitsToNat_lt {s : List Char} (digits : ∀ c ∈ s, isAsciiDigit c = true) :
    digitsToNat s < Nat.pow 10 s.length := by
  induction s with
  | nil => decide
  | cons c s ih =>
    have tail := ih fun d hd => digits d (List.mem_cons_of_mem _ hd)
    have digit := isAsciiDigit_iff.mp (digits c List.mem_cons_self)
    have front : Nat.pow 10 s.length * (c.toNat - 48) ≤ Nat.pow 10 s.length * 9 :=
      Nat.mul_le_mul_left _ (by omega)
    have width : Nat.pow 10 (c :: s).length = Nat.pow 10 s.length * 10 := rfl
    rw [digitsToNat_cons, width]
    omega

/-- A digit decides between two numbers of one width before the digits behind it. -/
theorem mul_add_lt_mul_add_iff {width a b m n : Nat} (hm : m < width) (hn : n < width) :
    width * a + m < width * b + n ↔ a < b ∨ a = b ∧ m < n := by
  rcases Nat.lt_trichotomy a b with less | rfl | greater
  · have step := Nat.mul_le_mul_left width (Nat.succ_le_of_lt less)
    rw [Nat.mul_succ] at step
    omega
  · omega
  · have step := Nat.mul_le_mul_left width (Nat.succ_le_of_lt greater)
    rw [Nat.mul_succ] at step
    omega

/-- Digits of one width compare as the numbers that they stand for. -/
theorem lt_iff_digitsToNat_lt {s t : List Char} (hs : ∀ c ∈ s, isAsciiDigit c = true)
    (ht : ∀ c ∈ t, isAsciiDigit c = true) (length : s.length = t.length) :
    s < t ↔ digitsToNat s < digitsToNat t := by
  induction s generalizing t with
  | nil =>
    obtain rfl := List.length_eq_zero_iff.mp length.symm
    simp
  | cons a s ih =>
    cases t with
    | nil => cases length
    | cons b t =>
      have lengths : s.length = t.length := Nat.succ.inj length
      have digitA := isAsciiDigit_iff.mp (hs a List.mem_cons_self)
      have digitB := isAsciiDigit_iff.mp (ht b List.mem_cons_self)
      have restS : ∀ c ∈ s, isAsciiDigit c = true := fun c hc => hs c (List.mem_cons_of_mem _ hc)
      have restT : ∀ c ∈ t, isAsciiDigit c = true := fun c hc => ht c (List.mem_cons_of_mem _ hc)
      have less : a < b ↔ a.toNat - 48 < b.toNat - 48 := by
        rw [Char.lt_def, UInt32.lt_iff_toNat_lt]
        change a.toNat < b.toNat ↔ _
        omega
      have same : a = b ↔ a.toNat - 48 = b.toNat - 48 := by
        rw [← Char.toNat_inj]
        omega
      -- The first digits decide, for what follows is less than one of their units.
      rw [List.cons_lt_cons_iff, ih restS restT lengths, digitsToNat_cons, digitsToNat_cons,
        ← lengths, mul_add_lt_mul_add_iff (digitsToNat_lt restS) (lengths ▸ digitsToNat_lt restT),
        less, same]

/-- Digits of one width are told apart by the numbers that they stand for. -/
theorem digitsToNat_inj {s t : List Char} (hs : ∀ c ∈ s, isAsciiDigit c = true)
    (ht : ∀ c ∈ t, isAsciiDigit c = true) (length : s.length = t.length) :
    digitsToNat s = digitsToNat t ↔ s = t := by
  constructor
  · intro same
    have notLess : ¬ s < t := by
      rw [lt_iff_digitsToNat_lt hs ht length, same]
      exact Nat.lt_irrefl _
    have notGreater : ¬ t < s := by
      rw [lt_iff_digitsToNat_lt ht hs length.symm, same]
      exact Nat.lt_irrefl _
    exact List.le_antisymm notGreater notLess
  · exact congrArg digitsToNat

/-- Digits are what is written for their number at their width. -/
theorem padded_digitsToNat {s : List Char} (nonempty : s ≠ [])
    (digits : ∀ c ∈ s, isAsciiDigit c = true) : padded s.length (digitsToNat s) = s := by
  have length := length_padded (List.length_pos_iff.mpr nonempty) (digitsToNat_lt digits)
  exact (digitsToNat_inj (fun _ => isAsciiDigit_of_mem_padded) digits length).mp
    (digitsToNat_padded _ _)

/-- A number at some width is the digits of that width that stand for it. -/
theorem eq_padded_iff {width n : Nat} {s : List Char} (positive : 0 < width)
    (fits : n < Nat.pow 10 width) : s = padded width n ↔
      s.length = width ∧ (∀ c ∈ s, isAsciiDigit c = true) ∧ digitsToNat s = n := by
  constructor
  · rintro rfl
    exact ⟨length_padded positive fits, fun _ => isAsciiDigit_of_mem_padded,
      digitsToNat_padded width n⟩
  · rintro ⟨rfl, digits, rfl⟩
    exact (padded_digitsToNat (List.length_pos_iff.mp positive) digits).symm

theorem padded_injective (width : Nat) : Function.Injective (padded width) :=
  Function.LeftInverse.injective (digitsToNat_padded width)

/-- A number of a fixed width ends where its width does, whatever follows. -/
theorem padded_append_inj {width a b : Nat} {x y : List Char} (positive : 0 < width)
    (ha : a < Nat.pow 10 width) (hb : b < Nat.pow 10 width) :
    padded width a ++ x = padded width b ++ y ↔ a = b ∧ x = y := by
  have length : (padded width a).length = (padded width b).length := by
    rw [length_padded positive ha, length_padded positive hb]
  constructor
  · intro same
    obtain ⟨number, rest⟩ := List.append_inj same length
    exact ⟨padded_injective width number, rest⟩
  · rintro ⟨rfl, rfl⟩
    rfl

/-- Behind numbers of one width the text decides only when the numbers are equal. -/
theorem padded_append_lt_iff {width a b : Nat} {x y : List Char} (positive : 0 < width)
    (ha : a < Nat.pow 10 width) (hb : b < Nat.pow 10 width) :
    padded width a ++ x < padded width b ++ y ↔ a < b ∨ a = b ∧ x < y := by
  have length : (padded width a).length = (padded width b).length := by
    rw [length_padded positive ha, length_padded positive hb]
  rw [append_lt_append_iff length, (padded_injective width).eq_iff,
    lt_iff_digitsToNat_lt (fun _ => isAsciiDigit_of_mem_padded)
      (fun _ => isAsciiDigit_of_mem_padded) length, digitsToNat_padded, digitsToNat_padded]

end RouteAlerts.Text
