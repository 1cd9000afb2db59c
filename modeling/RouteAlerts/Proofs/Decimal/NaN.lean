import RouteAlerts.Decimal.Read
import RouteAlerts.Proofs.Text.Digits

/-!
Which texts are read as no number. What comes out of rounding always is a number, and so is a
product or quotient of a number with one that is neither zero nor infinite. Therefore digits are
read as numbers, however many there are, and only the word for no number is read as none
(`isNaN_read`).
-/

namespace RouteAlerts.Decimal

open Text
open Float.Model (UnpackedFloat Format)
open Float.Model.UnpackedFloat

/-! ### Packing -/

section

variable {spec : Format}

theorem neg_one_ne_zero : (-1#_ : BitVec spec.exponentBits) ≠ 0#_ := by
  intro h
  have lowest := congrArg (BitVec.getLsbD · 0) h
  simp [BitVec.neg_one_eq_allOnes, spec.he] at lowest

/-- The mantissa of the canonical representation of no number is not that of infinity. -/
theorem quiet_ne_zero :
    (1#_ : BitVec spec.mantissaBitsWithoutImplicit) <<< (spec.mantissaBitsWithoutImplicit - 1) ≠
      0#_ := by
  have room := spec.hm
  intro h
  have highest := congrArg (BitVec.getLsbD · (spec.mantissaBitsWithoutImplicit - 1)) h
  simp at highest
  omega

theorem isNaN_unpack (b : BitVec spec.numBits) :
    (unpack spec b).isNaN = true ↔ unpackExponent b = -1#_ ∧ unpackMantissa b ≠ 0#_ := by
  unfold Float.Model.UnpackedFloat.unpack
  by_cases top : unpackExponent b = -1#_
  · rw [if_pos top]
    by_cases zero : unpackMantissa b = 0#_
    · rw [if_pos zero]
      exact iff_of_false Bool.false_ne_true fun h => h.2 zero
    · rw [if_neg zero]
      exact iff_of_true rfl ⟨top, zero⟩
  · rw [if_neg top]
    refine iff_of_false (fun h => ?_) fun h => top h.1
    by_cases low : unpackExponent b = 0#_
    · rw [if_pos low] at h
      by_cases zero : unpackMantissa b = 0#_
      · rw [dif_pos zero] at h
        cases h
      · rw [dif_neg zero] at h
        cases h
    · rw [if_neg low] at h
      cases h

theorem isNaN_unpack_packComponents (s : Sign) (e : BitVec spec.exponentBits)
    (m : BitVec spec.mantissaBitsWithoutImplicit) :
    (unpack spec (packComponents spec s e m)).isNaN = true ↔ e = -1#_ ∧ m ≠ 0#_ := by
  rw [isNaN_unpack, unpackExponent_packComponents, unpackMantissa_packComponents]

theorem isNaN_of_mantissa_zero (s : Sign) (e : BitVec spec.exponentBits) :
    (unpack spec (packComponents spec s e 0#_)).isNaN = false := by
  rw [Bool.eq_false_iff, ne_eq, isNaN_unpack_packComponents]
  exact fun h => h.2 rfl

theorem isNaN_of_exponent_ne {e : BitVec spec.exponentBits} (below : e ≠ -1#_) (s : Sign)
    (m : BitVec spec.mantissaBitsWithoutImplicit) :
    (unpack spec (packComponents spec s e m)).isNaN = false := by
  rw [Bool.eq_false_iff, ne_eq, isNaN_unpack_packComponents]
  exact fun h => below h.1

/-- Packing may overflow to infinity, but a number is not lost. -/
theorem isNaN_unpack_pack (f : UnpackedFloat) : (unpack spec (pack spec f)).isNaN = f.isNaN := by
  fun_cases UnpackedFloat.pack spec f with
  | case1 => exact (isNaN_unpack_packComponents _ _ _).mpr ⟨rfl, quiet_ne_zero⟩
  | case2 s => exact isNaN_of_mantissa_zero s _
  | case3 s => exact isNaN_of_mantissa_zero s _
  | case4 s m e _ biased above => exact isNaN_of_mantissa_zero s _
  | case5 s m e _ bits biased fits normal =>
    -- The top exponent is kept for infinity and for no number, and this one fits below it.
    refine isNaN_of_exponent_ne (fun top => ?_) s _
    have exponent := congrArg BitVec.toNat top
    rw [BitVec.neg_one_eq_allOnes, BitVec.toNat_allOnes, BitVec.toNat_ofNat,
      Nat.mod_eq_of_lt (by omega)] at exponent
    omega
  | case6 s m e _ bits biased fits subnormal =>
    exact isNaN_of_exponent_ne (Ne.symm neg_one_ne_zero) s _

/-! ### Arithmetic -/

theorem isNaN_ite {p : Prop} [Decidable p] {f g : UnpackedFloat} (hf : f.isNaN = false)
    (hg : g.isNaN = false) : (if p then f else g).isNaN = false := by
  by_cases h : p
  · rw [if_pos h, hf]
  · rw [if_neg h, hg]

theorem isNaN_dite {p : Prop} [Decidable p] {f : p → UnpackedFloat} {g : ¬ p → UnpackedFloat}
    (hf : ∀ h, (f h).isNaN = false) (hg : ∀ h, (g h).isNaN = false) :
    (if h : p then f h else g h).isNaN = false := by
  by_cases h : p
  · rw [dif_pos h, hf]
  · rw [dif_neg h, hg]

theorem isNaN_roundWithAccuracy (s : Sign) (m : Nat) (e : Int) (a : Accuracy) :
    (roundWithAccuracy spec s m e a).isNaN = false :=
  isNaN_dite (fun _ => rfl) fun _ => rfl

theorem isNaN_ofNat (n : Nat) : (UnpackedFloat.ofNat spec n).isNaN = false := by
  unfold UnpackedFloat.ofNat UnpackedFloat.ofInt UnpackedFloat.normalize
  split
  · exact isNaN_roundWithAccuracy _ _ _ _
  · rfl
  · exact isNaN_roundWithAccuracy _ _ _ _

theorem isNaN_mul_finite (f : UnpackedFloat) (s : Sign) (m : Nat) (e : Int) (pos : 0 < m) :
    (UnpackedFloat.mul spec f (.finite s m e pos)).isNaN = f.isNaN := by
  cases f with
  | finite s' m' e' pos' => exact isNaN_roundWithAccuracy _ _ _ _
  | _ => rfl

theorem isNaN_div_finite (f : UnpackedFloat) (s : Sign) (m : Nat) (e : Int) (pos : 0 < m) :
    (UnpackedFloat.div spec f (.finite s m e pos)).isNaN = f.isNaN := by
  cases f with
  | finite s' m' e' pos' => exact isNaN_roundWithAccuracy _ _ _ _
  | _ => rfl

theorem isNaN_scientific (m : Nat) (e : Int) :
    (UnpackedFloat.ofScientific spec m e).isNaN = false := by
  unfold UnpackedFloat.ofScientific
  refine isNaN_dite (fun _ => rfl) fun nonzero => ?_
  -- What is too large or too small is not computed.
  refine isNaN_ite rfl (isNaN_ite rfl ?_)
  refine isNaN_ite ?_ ?_
  · exact isNaN_mul_finite _ _ _ _ _
  · exact isNaN_div_finite _ _ _ _ _

end

theorem isNaN_pack (f : UnpackedFloat) : (Float.ofModel (.pack f)).isNaN = f.isNaN :=
  isNaN_unpack_pack f

theorem isNaN_neg (x : Float) : (-x).isNaN = x.isNaN := by
  change (Float.ofModel (.pack x.toModel.unpack.neg)).isNaN = x.toModel.unpack.isNaN
  rw [isNaN_pack]
  cases x.toModel.unpack <;> rfl

/-- Whether a number is neither zero nor infinite. -/
def isNonzero (x : Float) : Bool :=
  match x.toModel.unpack with
  | .finite .. => true
  | _ => false

theorem exists_of_isNonzero {x : Float} (h : isNonzero x = true) :
    ∃ s m e pos, x.toModel.unpack = .finite s m e pos := by
  unfold isNonzero at h
  cases unpacked : x.toModel.unpack with
  | finite s m e pos => exact ⟨s, m, e, pos, rfl⟩
  | _ =>
    rw [unpacked] at h
    cases h

theorem isNaN_mul (x : Float) {y : Float} (h : isNonzero y = true) :
    (x * y).isNaN = x.isNaN := by
  obtain ⟨s, m, e, pos, unpacked⟩ := exists_of_isNonzero h
  change (Float.ofModel (.pack (UnpackedFloat.mul .binary64 x.toModel.unpack
    y.toModel.unpack))).isNaN = x.toModel.unpack.isNaN
  rw [isNaN_pack, unpacked, isNaN_mul_finite]

theorem isNaN_div (x : Float) {y : Float} (h : isNonzero y = true) :
    (x / y).isNaN = x.isNaN := by
  obtain ⟨s, m, e, pos, unpacked⟩ := exists_of_isNonzero h
  change (Float.ofModel (.pack (UnpackedFloat.div .binary64 x.toModel.unpack
    y.toModel.unpack))).isNaN = x.toModel.unpack.isNaN
  rw [isNaN_pack, unpacked, isNaN_div_finite]

theorem isNonzero_of_mem_powers {x : Float} (h : x ∈ Float.exactlyRepresentablePowersOfTen) :
    isNonzero x = true := by
  have all : Float.exactlyRepresentablePowersOfTen.all isNonzero = true := by decide +kernel
  exact Array.all_eq_true_iff_forall_mem.mp all x h

theorem isNaN_ofScientific (m : Nat) (s : Bool) (e : Nat) :
    (Float.ofScientific m s e).isNaN = false := by
  have whole : m.toUInt64.toFloat.isNaN = false := by
    change (Float.ofModel (.pack (UnpackedFloat.ofNat .binary64 m.toUInt64.toNat))).isNaN = false
    rw [isNaN_pack, isNaN_ofNat]
  unfold Float.ofScientific
  split
  · rename_i exact
    have bound : e < Float.exactlyRepresentablePowersOfTen.size := Nat.lt_succ_of_le exact.2
    have power : isNonzero Float.exactlyRepresentablePowersOfTen[e] = true :=
      isNonzero_of_mem_powers (Array.getElem_mem bound)
    dsimp only
    split
    · exact (isNaN_div _ power).trans whole
    · exact (isNaN_mul _ power).trans whole
  · change (Float.ofModel (.pack (UnpackedFloat.ofScientific .binary64 m _))).isNaN = false
    rw [isNaN_pack, isNaN_scientific]

/-- What compares with a number is a number. -/
theorem isNaN_of_le {x y : Float} (h : x ≤ y) : x.isNaN = false ∧ y.isNaN = false := by
  have le : UnpackedFloat.le x.toModel.unpack y.toModel.unpack = true := of_decide_eq_true h
  change x.toModel.unpack.isNaN = false ∧ y.toModel.unpack.isNaN = false
  cases hx : x.toModel.unpack with
  | notANumber =>
    rw [hx] at le
    cases le
  | _ =>
    refine ⟨rfl, ?_⟩
    cases hy : y.toModel.unpack with
    | notANumber =>
      rw [hx, hy] at le
      cases le
    | _ => rfl

/-! ### Reading -/

theorem isNaN_nearest (mantissa : Nat) (power : Int) : (nearest mantissa power).isNaN = false := by
  unfold nearest
  dsimp only
  split
  · decide +kernel
  · split
    · decide +kernel
    · split <;> exact isNaN_ofScientific _ _ _

theorem exists_digit_of_takeWhile {s t : List Char} (suffix : t <:+ s)
    (some_digit : (t.takeWhile isAsciiDigit).isEmpty = false) :
    ∃ c ∈ s, isAsciiDigit c = true := by
  obtain ⟨c, hc⟩ := List.exists_mem_of_ne_nil _ (List.isEmpty_eq_false_iff.mp some_digit)
  exact ⟨c, suffix.subset ((List.takeWhile_prefix _).subset hc),
    List.all_eq_true.mp List.all_takeWhile c hc⟩

/-- What is read without a word is read as a number, and has a digit in it. -/
theorem isNaN_of_readUnsigned? {s : List Char} {x : Float} (h : readUnsigned? s = some x) :
    x.isNaN = false ∧ ∃ c ∈ s, isAsciiDigit c = true := by
  unfold readUnsigned? at h
  dsimp only at h
  split at h
  · rename_i t afterWhole
    dsimp only at h
    split at h
    · cases h
    · rename_i digits
      obtain ⟨power, -, rfl⟩ := Option.map_eq_some_iff.mp h
      refine ⟨isNaN_nearest _ _, ?_⟩
      have behind : t <:+ s := by
        have point : t <:+ '.' :: t := List.suffix_cons _ _
        rw [← afterWhole] at point
        exact point.trans (List.dropWhile_suffix _)
      rcases Bool.and_eq_false_iff.mp (Bool.eq_false_iff.mpr digits) with whole | fraction
      · exact exists_digit_of_takeWhile List.suffix_rfl whole
      · exact exists_digit_of_takeWhile behind fraction
  · dsimp only at h
    split at h
    · cases h
    · rename_i digits
      obtain ⟨power, -, rfl⟩ := Option.map_eq_some_iff.mp h
      refine ⟨isNaN_nearest _ _, ?_⟩
      rcases Bool.and_eq_false_iff.mp (Bool.eq_false_iff.mpr digits) with whole | fraction
      · exact exists_digit_of_takeWhile List.suffix_rfl whole
      · cases fraction

/-- Whether a text is the word for no number, in any letter case. -/
def isNaNWord (s : List Char) : Bool := s.map Char.toLower == "nan".toList

theorem isNaNWord_eq_false {s : List Char} {c : Char} (hc : c ∈ s)
    (digit : isAsciiDigit c = true) : isNaNWord s = false := by
  obtain ⟨-, high⟩ := isAsciiDigit_iff.mp digit
  have same : c.toLower = c := by
    refine dif_neg fun ⟨upper, _⟩ => ?_
    have above : 65 ≤ c.toNat := UInt32.le_iff_toNat_le.mp upper
    omega
  refine Bool.eq_false_iff.mpr fun word => ?_
  have letter : c ∈ "nan".toList := by
    rw [← eq_of_beq word, ← same]
    exact List.mem_map_of_mem hc
  have letters : "nan".toList.all (!isAsciiDigit ·) = true := by decide
  have no_digit := List.all_eq_true.mp letters c letter
  rw [digit] at no_digit
  cases no_digit

theorem isNaN_of_readWord? {s : List Char} {x : Float} (h : readWord? s = some x) :
    x.isNaN = isNaNWord s := by
  unfold readWord? at h
  dsimp only at h
  unfold isNaNWord
  split at h
  · rename_i infinite
    obtain rfl := Option.some.inj h
    have other : s.map Char.toLower ≠ "nan".toList := by
      intro word
      rw [word] at infinite
      exact absurd infinite (by decide)
    rw [beq_eq_false_iff_ne.mpr other]
    decide +kernel
  · split at h
    · rename_i word
      obtain rfl := Option.some.inj h
      rw [word]
      decide +kernel
    · cases h

/-- What stands behind the sign of a text, if it has one. -/
def unsigned : List Char → List Char
  | '-' :: s => s
  | '+' :: s => s
  | s => s

/-- What stands behind the sign is read as a number or a word, and negated or not. -/
theorem exists_of_read {s : List Char} {x : Float} (h : read s = .ok x) :
    ∃ y, (readUnsigned? (unsigned s) = some y ∨ readWord? (unsigned s) = some y) ∧
      (x = y ∨ x = -y) := by
  have either {body : List Char} {y : Float}
      (found : (readUnsigned? body).orElse (fun _ => readWord? body) = some y) :
      readUnsigned? body = some y ∨ readWord? body = some y := by
    cases digits : readUnsigned? body with
    | none => exact .inr (by rwa [digits] at found)
    | some z => exact .inl (by rwa [digits] at found)
  unfold read at h
  split at h
  · cases h
  · dsimp only at h
    split at h
    · rename_i y found
      obtain rfl := Except.ok.inj h
      split at found
      · exact ⟨y, either found, .inr rfl⟩
      · exact ⟨y, either found, .inl rfl⟩
      · rename_i no_minus no_plus
        rw [unsigned.eq_3 s no_minus no_plus]
        exact ⟨y, either found, .inl rfl⟩
    · cases h

/-- A text is read as no number exactly when it is the word for that, with or without a sign. -/
theorem isNaN_read {s : List Char} {x : Float} (h : read s = .ok x) :
    x.isNaN = isNaNWord (unsigned s) := by
  obtain ⟨y, found, sign⟩ := exists_of_read h
  have same : x.isNaN = y.isNaN := by
    rcases sign with rfl | rfl
    · rfl
    · exact isNaN_neg y
  rw [same]
  rcases found with digits | word
  · obtain ⟨number, c, hc, digit⟩ := isNaN_of_readUnsigned? digits
    rw [number, isNaNWord_eq_false hc digit]
  · exact isNaN_of_readWord? word

end RouteAlerts.Decimal
