import RouteAlerts.Bytes.Percent
import RouteAlerts.Proofs.Bytes.Utf8

/-!
Percent coding and back. Whatever characters are escaped, if only percent signs are among them, the
bytes of the text are what its coding stands for (`decode_encodeWhere`).
-/

namespace RouteAlerts.Percent

/-! ### Bytes -/

/-- A hexadecimal digit as it stands in a coded text. -/
def digit (n : Nat) : Char :=
  if n < 10 then Char.ofNat ('0'.toNat + n) else Char.ofNat ('A'.toNat + (n - 10))

theorem escape_eq (b : UInt8) : escape b = ['%', digit (b.toNat / 16), digit (b.toNat % 16)] := rfl

/-- A digit is one byte, which has the value of the digit. -/
theorem hexValue?_digit {n : Nat} (small : n < 16) :
    String.utf8EncodeChar (digit n) = [UInt8.ofNat (digit n).toNat] ∧
      hexValue? (UInt8.ofNat (digit n).toNat) = some (UInt8.ofNat n) := by
  revert n
  decide

theorem isAlphanum_digit {n : Nat} (small : n < 16) : (digit n).isAlphanum = true := by
  revert n
  decide

/-- The two halves of a byte. -/
theorem halves (b : UInt8) :
    UInt8.ofNat (b.toNat / 16) * 16 + UInt8.ofNat (b.toNat % 16) = b := by
  have bound := b.toNat_lt
  have sixteen : (16 : UInt8).toNat = 16 := rfl
  apply UInt8.toNat_inj.mp
  rw [UInt8.toNat_add, UInt8.toNat_mul, Utf8.toNat_ofNat_of_lt (by omega),
    Utf8.toNat_ofNat_of_lt (by omega), sixteen]
  omega

theorem decode_escape (b : UInt8) (rest : Bytes) :
    decode (Utf8.encode (escape b) ++ rest) = b :: decode rest := by
  have bound := b.toNat_lt
  obtain ⟨high, highValue⟩ := hexValue?_digit (show b.toNat / 16 < 16 by omega)
  obtain ⟨low, lowValue⟩ := hexValue?_digit (show b.toNat % 16 < 16 by omega)
  have percent : String.utf8EncodeChar '%' = [0x25] := by decide
  have bytes : Utf8.encode (escape b) = [0x25, UInt8.ofNat (digit (b.toNat / 16)).toNat,
      UInt8.ofNat (digit (b.toNat % 16)).toNat] := by
    simp [Utf8.encode, escape_eq, percent, high, low]
  rw [bytes]
  simp only [List.cons_append, List.nil_append]
  rw [decode, highValue, lowValue]
  simp only [halves]

theorem decode_escapes (bytes rest : Bytes) :
    decode (Utf8.encode (bytes.flatMap escape) ++ rest) = bytes ++ decode rest := by
  induction bytes with
  | nil => rfl
  | cons b bytes ih =>
    have split : Utf8.encode ((b :: bytes).flatMap escape) =
        Utf8.encode (escape b) ++ Utf8.encode (bytes.flatMap escape) := by
      simp [Utf8.encode]
    rw [split, List.append_assoc, decode_escape, ih, List.cons_append]

/-- A byte that is no percent sign stands for itself. -/
theorem decode_plain {b : UInt8} (plain : b ≠ 0x25) (rest : Bytes) :
    decode (b :: rest) = b :: decode rest := by
  rw [decode]
  intro _ _ _ same
  exact absurd same plain

/-! ### Texts -/

variable {mustEscape : Char → Bool}

theorem encodeWhere_cons (c : Char) (s : List Char) : encodeWhere mustEscape (c :: s) =
    (if c.toNat < 0x80 && !mustEscape c then [c] else (String.utf8EncodeChar c).flatMap escape) ++
      encodeWhere mustEscape s := by
  simp [encodeWhere]

/-- A coded text stands for the bytes of the text. -/
theorem decode_encodeWhere (percent : mustEscape '%' = true) (s : List Char) :
    decode (Utf8.encode (encodeWhere mustEscape s)) = Utf8.encode s := by
  induction s with
  | nil => simp [encodeWhere, Utf8.encode, decode]
  | cons c s ih =>
    have split : Utf8.encode (c :: s) = String.utf8EncodeChar c ++ Utf8.encode s := rfl
    rw [encodeWhere_cons, split]
    by_cases own : (c.toNat < 0x80 && !mustEscape c) = true
    · obtain ⟨ascii, free⟩ := Bool.and_eq_true_iff.mp own
      have ascii : c.toNat < 128 := of_decide_eq_true ascii
      have one : String.utf8EncodeChar c = [UInt8.ofNat c.toNat] := if_pos (Nat.le_of_lt_succ ascii)
      -- A percent sign would open an escape, but that one never goes uncoded.
      have plain : UInt8.ofNat c.toNat ≠ 0x25 := by
        intro same
        have value := congrArg UInt8.toNat same
        rw [Utf8.toNat_ofNat_of_lt (by omega)] at value
        have isPercent : c = '%' := Char.toNat_inj.mp value
        rw [isPercent, percent] at free
        cases free
      have bytes : Utf8.encode ([c] ++ encodeWhere mustEscape s) =
          UInt8.ofNat c.toNat :: Utf8.encode (encodeWhere mustEscape s) := by
        simp [Utf8.encode, one]
      rw [if_pos own, bytes, decode_plain plain, ih, one]
      rfl
    · have bytes : Utf8.encode ((String.utf8EncodeChar c).flatMap escape ++
          encodeWhere mustEscape s) = Utf8.encode ((String.utf8EncodeChar c).flatMap escape) ++
            Utf8.encode (encodeWhere mustEscape s) := by
        simp [Utf8.encode]
      rw [if_neg own, bytes, decode_escapes, ih]

/-- In a coded text there are percent signs, hexadecimal digits, and characters that are left as
they are. -/
theorem mem_encodeWhere {s : List Char} {c : Char} (h : c ∈ encodeWhere mustEscape s) :
    c = '%' ∨ c.isAlphanum = true ∨ mustEscape c = false := by
  obtain ⟨d, -, inside⟩ := List.mem_flatMap.mp h
  split at inside
  · rename_i own
    obtain rfl := List.mem_singleton.mp inside
    simp only [Bool.and_eq_true, Bool.not_eq_true'] at own
    exact .inr (.inr own.2)
  · obtain ⟨b, -, coded⟩ := List.mem_flatMap.mp inside
    have bound := b.toNat_lt
    rw [escape_eq] at coded
    simp only [List.mem_cons, List.not_mem_nil, or_false] at coded
    rcases coded with sign | rfl | rfl
    · exact .inl sign
    · exact .inr (.inl (isAlphanum_digit (by omega)))
    · exact .inr (.inl (isAlphanum_digit (by omega)))

theorem encodeWhere_ne_nil {s : List Char} (h : s ≠ []) : encodeWhere mustEscape s ≠ [] := by
  obtain ⟨c, rest, rfl⟩ := List.exists_cons_of_ne_nil h
  rw [encodeWhere_cons]
  split
  · simp
  · intro empty
    have nothing := (List.append_eq_nil_iff.mp empty).1
    rw [List.flatMap_eq_nil_iff] at nothing
    obtain ⟨b, rest, bytes⟩ := List.exists_cons_of_ne_nil (String.utf8EncodeChar_ne_nil (c := c))
    have := nothing b (by simp [bytes])
    cases this

end RouteAlerts.Percent
