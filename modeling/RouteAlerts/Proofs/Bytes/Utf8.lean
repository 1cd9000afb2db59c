import Mathlib.Tactic.SplitIfs
import RouteAlerts.Bytes.Utf8

/-!
Text as bytes and back. What was written as bytes is taken apart into its characters again
(`units_encode`), so reading gives the text back (`decode_encode`). Bytes keep the order of texts:
whoever compares byte by byte compares character by character (`encode_lt_encode_iff`).
-/

namespace RouteAlerts.Utf8

/-! ### Sizes -/

theorem size_append (s t : List Char) : size (s ++ t) = size s + size t := by
  induction s with
  | nil => simp [size]
  | cons c s ih =>
    change c.utf8Size + size (s ++ t) = c.utf8Size + size s + size t
    omega

/-- A text of characters with one byte each. -/
theorem size_eq_length {s : List Char} (h : ∀ c ∈ s, c.utf8Size = 1) : size s = s.length := by
  induction s with
  | nil => rfl
  | cons c s ih =>
    change c.utf8Size + size s = s.length + 1
    rw [h c List.mem_cons_self, ih fun d later => h d (List.mem_cons_of_mem _ later)]
    omega

/-! ### Single bytes -/

theorem toNat_ofNat_of_lt {n : Nat} (h : n < 256) : (UInt8.ofNat n).toNat = n :=
  UInt8.toNat_ofNat_of_lt' h

theorem isTail_ofNat (n : Nat) : isTail (UInt8.ofNat (n % 64 + 128)) = true := by
  have value : (UInt8.ofNat (n % 64 + 128)).toNat = n % 64 + 128 := toNat_ofNat_of_lt (by omega)
  have least : (0x80 : UInt8).toNat = 128 := rfl
  have greatest : (0xBF : UInt8).toNat = 191 := rfl
  simp only [isTail, Bool.and_eq_true, decide_eq_true_eq, UInt8.le_iff_toNat_le]
  omega

theorem tailBits_ofNat (n : Nat) : tailBits (UInt8.ofNat (n % 64 + 128)) = n % 64 := by
  rw [tailBits, toNat_ofNat_of_lt (by omega)]
  omega

/-! ### Characters of one to four bytes -/

section Character

variable {a b c d : UInt8}

theorem units_one (first : a.toNat < 0x80) (s : Bytes) :
    units (a :: s) = some (Char.ofNat a.toNat) :: units s := by
  have ascii : a < 0x80 := UInt8.lt_iff_toNat_lt.mpr first
  rw [units.eq_def]
  simp [ascii]

theorem units_two (least : 0xC2 ≤ a.toNat) (most : a.toNat ≤ 0xDF) (hb : isTail b = true)
    (s : Bytes) : units (a :: b :: s) =
      some (Char.ofNat ((a.toNat - 0xC0) * 64 + tailBits b)) :: units s := by
  have one : ¬ a.toNat < 0x80 := by omega
  rw [units.eq_def]
  simp [UInt8.lt_iff_toNat_lt, UInt8.le_iff_toNat_le, one, least, most, hb]

theorem units_three (least : 0xE0 ≤ a.toNat) (most : a.toNat ≤ 0xEF)
    (hb : isSecondOfThree a b = true) (hc : isTail c = true) (s : Bytes) :
    units (a :: b :: c :: s) =
      some (Char.ofNat (((a.toNat - 0xE0) * 64 + tailBits b) * 64 + tailBits c)) :: units s := by
  have one : ¬ a.toNat < 0x80 := by omega
  have two : ¬ a.toNat ≤ 0xDF := by omega
  rw [units.eq_def]
  simp [UInt8.lt_iff_toNat_lt, UInt8.le_iff_toNat_le, one, two, least, most, hb, hc]

theorem units_four (least : 0xF0 ≤ a.toNat) (most : a.toNat ≤ 0xF4)
    (hb : isSecondOfFour a b = true) (hc : isTail c = true) (hd : isTail d = true) (s : Bytes) :
    units (a :: b :: c :: d :: s) =
      some (Char.ofNat ((((a.toNat - 0xF0) * 64 + tailBits b) * 64 + tailBits c) * 64
        + tailBits d)) :: units s := by
  have one : ¬ a.toNat < 0x80 := by omega
  have two : ¬ a.toNat ≤ 0xDF := by omega
  have three : ¬ a.toNat ≤ 0xEF := by omega
  rw [units.eq_def]
  simp [UInt8.lt_iff_toNat_lt, UInt8.le_iff_toNat_le, one, two, three, least, most, hb, hc, hd]

theorem isSecondOfThree_iff : isSecondOfThree a b = true ↔
    (0x80 ≤ b.toNat ∧ b.toNat ≤ 0xBF) ∧ (a.toNat = 0xE0 → 0xA0 ≤ b.toNat) ∧
      (a.toNat = 0xED → b.toNat ≤ 0x9F) := by
  simp only [isSecondOfThree, isTail, beq_iff_eq, ← UInt8.toNat_inj, UInt8.le_iff_toNat_le,
    UInt8.reduceToNat]
  split
  · simp
    omega
  · split
    · simp
      omega
    · simp
      omega

theorem isSecondOfFour_iff : isSecondOfFour a b = true ↔
    (0x80 ≤ b.toNat ∧ b.toNat ≤ 0xBF) ∧ (a.toNat = 0xF0 → 0x90 ≤ b.toNat) ∧
      (a.toNat = 0xF4 → b.toNat ≤ 0x8F) := by
  simp only [isSecondOfFour, isTail, beq_iff_eq, ← UInt8.toNat_inj, UInt8.le_iff_toNat_le,
    UInt8.reduceToNat]
  split
  · simp
    omega
  · split
    · simp
      omega
    · simp
      omega

end Character

/-! ### Written characters -/

section Point

variable {n : Nat}

/-- Sixteen bits that are no surrogate fill three bytes, and not with zeros in front. -/
theorem isSecondOfThree_ofNat (least : 0x800 ≤ n) (most : n < 0x10000)
    (scalar : n < 0xD800 ∨ 0xDFFF < n) :
    isSecondOfThree (UInt8.ofNat (n / 4096 % 16 + 224)) (UInt8.ofNat (n / 64 % 64 + 128)) =
      true := by
  rw [isSecondOfThree_iff, toNat_ofNat_of_lt (by omega), toNat_ofNat_of_lt (by omega)]
  omega

/-- What does not fit into sixteen bits fills four bytes, and not with zeros in front. -/
theorem isSecondOfFour_ofNat (least : 0x10000 ≤ n) (most : n < 0x110000) :
    isSecondOfFour (UInt8.ofNat (n / 262144 % 8 + 240)) (UInt8.ofNat (n / 4096 % 64 + 128)) =
      true := by
  rw [isSecondOfFour_iff, toNat_ofNat_of_lt (by omega), toNat_ofNat_of_lt (by omega)]
  omega

end Point

/-- The bytes of a character are taken for it, whatever follows. -/
theorem units_utf8EncodeChar (c : Char) (s : Bytes) :
    units (String.utf8EncodeChar c ++ s) = some c :: units s := by
  have scalar : c.toNat < 0xD800 ∨ 0xDFFF < c.toNat ∧ c.toNat < 0x110000 := c.valid
  have known : ∀ {n}, n = c.toNat → some (Char.ofNat n) :: units s = some c :: units s := by
    rintro n rfl
    rw [Char.ofNat_toNat]
  simp only [String.utf8EncodeChar, ← Char.toNat.eq_1]
  split
  · rename_i one
    have value : (UInt8.ofNat c.toNat).toNat = c.toNat := toNat_ofNat_of_lt (by omega)
    exact (units_one (by omega) s).trans (known value)
  · split
    · have value : (UInt8.ofNat (c.toNat / 64 % 32 + 192)).toNat = c.toNat / 64 % 32 + 192 :=
        toNat_ofNat_of_lt (by omega)
      refine (units_two (by omega) (by omega) (isTail_ofNat _) s).trans (known ?_)
      rw [value, tailBits_ofNat]
      omega
    · split
      · have value : (UInt8.ofNat (c.toNat / 4096 % 16 + 224)).toNat = c.toNat / 4096 % 16 + 224 :=
          toNat_ofNat_of_lt (by omega)
        have second := isSecondOfThree_ofNat (n := c.toNat) (by omega) (by omega) (by omega)
        refine (units_three (by omega) (by omega) second (isTail_ofNat _) s).trans (known ?_)
        rw [value, tailBits_ofNat, tailBits_ofNat]
        omega
      · have value : (UInt8.ofNat (c.toNat / 262144 % 8 + 240)).toNat =
            c.toNat / 262144 % 8 + 240 := toNat_ofNat_of_lt (by omega)
        have second := isSecondOfFour_ofNat (n := c.toNat) (by omega) (by omega)
        refine (units_four (by omega) (by omega) second (isTail_ofNat _) (isTail_ofNat _) s).trans
          (known ?_)
        rw [value, tailBits_ofNat, tailBits_ofNat, tailBits_ofNat]
        omega

theorem units_encode (s : List Char) : units (encode s) = s.map some := by
  induction s with
  | nil => simp [encode, units]
  | cons c s ih => rw [encode, List.flatMap_cons, units_utf8EncodeChar, List.map_cons, ← ih, encode]

/-- A text is read back from its bytes. -/
theorem decode_encode (s : List Char) : decode (encode s) = s := by
  rw [decode, units_encode, List.map_map]
  exact List.map_id s

/-! ### Order -/

theorem ofNat_cons_lt_cons_iff {m n : Nat} {s t : Bytes} (hm : m < 256) (hn : n < 256) :
    UInt8.ofNat m :: s < UInt8.ofNat n :: t ↔ m < n ∨ m = n ∧ s < t := by
  rw [List.cons_lt_cons_iff, UInt8.lt_iff_toNat_lt, ← UInt8.toNat_inj, toNat_ofNat_of_lt hm,
    toNat_ofNat_of_lt hn]

/-- The bytes of two characters differ before either ends, and the greater character has the greater
byte there. -/
theorem utf8EncodeChar_append_lt {c d : Char} (less : c < d) (x y : Bytes) :
    String.utf8EncodeChar c ++ x < String.utf8EncodeChar d ++ y := by
  have order : c.toNat < d.toNat := Char.lt_def.mp less
  have bound : d.toNat < 0xD800 ∨ 0xDFFF < d.toNat ∧ d.toNat < 0x110000 := d.valid
  -- Every byte behind the first one holds six bits, so the shifts are steps of six bits.
  have steps : ∀ n : Nat, n / 4096 = n / 64 / 64 ∧ n / 262144 = n / 64 / 64 / 64 := by omega
  simp only [String.utf8EncodeChar, ← Char.toNat.eq_1, steps]
  -- One case for every two numbers of bytes. Where the greater character would have fewer bytes
  -- the order is against it; elsewhere the first byte that differs decides.
  split_ifs
  all_goals
    simp (disch := omega) only [List.cons_append, List.nil_append, ofNat_cons_lt_cons_iff]
    omega

theorem encode_lt_encode {s t : List Char} (less : s < t) : encode s < encode t := by
  induction s generalizing t with
  | nil =>
    cases t with
    | nil => exact absurd less (List.lt_irrefl [])
    | cons d t =>
      obtain ⟨first, rest, code⟩ :=
        List.exists_cons_of_ne_nil (@String.utf8EncodeChar_ne_nil d)
      simp [encode, code]
  | cons c s ih =>
    cases t with
    | nil => exact absurd less (List.not_lt_nil _)
    | cons d t =>
      simp only [encode, List.flatMap_cons]
      rcases List.cons_lt_cons_iff.mp less with first | ⟨rfl, later⟩
      · exact utf8EncodeChar_append_lt first _ _
      · exact List.append_left_lt (ih later)

/-- Texts compare as their bytes do. -/
theorem encode_lt_encode_iff {s t : List Char} : encode s < encode t ↔ s < t := by
  constructor
  · intro bytes
    by_cases order : s < t
    · exact order
    · rcases List.le_iff_lt_or_eq.mp (List.not_lt.mp order) with greater | rfl
      · exact absurd (encode_lt_encode greater) (List.lt_asymm bytes)
      · exact absurd bytes (List.lt_irrefl _)
  · exact encode_lt_encode

end RouteAlerts.Utf8
