import Mathlib

/-!
The order of floating-point numbers. Numbers are compared by their sign, their power and their
mantissa, one after the other (`le_iff_rank_le`), so the comparison is transitive (`le_trans`). They
are equal when neither comes first; both zeros are, whatever their sign (`compare_zero_symm`).
-/

namespace RouteAlerts.Decimal

open Float.Model (UnpackedFloat)

/-- Where a number lies among all numbers: below or above zero, then its power, then its mantissa.
-/
def rank : UnpackedFloat → ℤ ×ₗ ℤ ×ₗ ℤ
  | .infinity .negative => toLex (-2, toLex (0, 0))
  | .finite .negative mantissa power _ => toLex (-1, toLex (-power, -mantissa))
  | .zero _ => toLex (0, toLex (0, 0))
  | .finite .positive mantissa power _ => toLex (1, toLex (power, mantissa))
  | .infinity .positive => toLex (2, toLex (0, 0))
  | .notANumber => toLex (3, toLex (0, 0))

theorem toLex_le_iff {a b c a' b' c' : ℤ} : toLex (a, toLex (b, c)) ≤ toLex (a', toLex (b', c')) ↔
    a < a' ∨ a = a' ∧ (b < b' ∨ b = b' ∧ c ≤ c') := by
  simp [Prod.Lex.toLex_le_toLex]

/-- Sizes are compared by their powers first. -/
theorem isLE_sizes_iff {m n : Nat} {e f : ℤ} :
    ((compare e f).then (compare m n)).isLE = true ↔ e < f ∨ e = f ∧ m ≤ n := by
  rw [Ordering.isLE_then_iff_or, compare_lt_iff_lt, compare_eq_iff_eq, Nat.isLE_compare]

/-- Below zero the greater size comes first. -/
theorem swap_sizes (m n : Nat) (e f : ℤ) : ((compare e f).then (compare m n)).swap =
    (compare f e).then (compare n m) := by
  rw [Ordering.swap_then, Int.compare_swap, Nat.compare_swap]

theorem le_iff_rank_le {f g : UnpackedFloat} :
    f.le g = true ↔ f.isNaN = false ∧ g.isNaN = false ∧ rank f ≤ rank g := by
  have signs : (compare UnpackedFloat.Sign.negative UnpackedFloat.Sign.negative).isLE = true ∧
      (compare UnpackedFloat.Sign.positive UnpackedFloat.Sign.positive).isLE = true ∧
      (compare UnpackedFloat.Sign.negative UnpackedFloat.Sign.positive).isLE = true ∧
      (compare UnpackedFloat.Sign.positive UnpackedFloat.Sign.negative).isLE = false := by
    decide
  rcases f with (_ | _) | _ | _ | ⟨_ | _, m, e, pos⟩ <;>
    rcases g with (_ | _) | _ | _ | ⟨_ | _, n, f, pos'⟩ <;>
    simp [UnpackedFloat.le, UnpackedFloat.compare, UnpackedFloat.isNaN, rank, toLex_le_iff,
      isLE_sizes_iff, swap_sizes, signs]
  -- Both are finite and below zero, where the signs of power and mantissa are turned.
  exact or_congr_right (and_congr_left' eq_comm)

theorem le_trans {x y z : Float} (first : x ≤ y) (second : y ≤ z) : x ≤ z := by
  have low : UnpackedFloat.le x.toModel.unpack y.toModel.unpack = true := of_decide_eq_true first
  have high : UnpackedFloat.le y.toModel.unpack z.toModel.unpack = true := of_decide_eq_true second
  obtain ⟨number, -, low⟩ := le_iff_rank_le.mp low
  obtain ⟨-, number', high⟩ := le_iff_rank_le.mp high
  exact decide_eq_true (le_iff_rank_le.mpr ⟨number, number', low.trans high⟩)

/-! ### Equal numbers -/

theorem unpack_zero : (0.0 : Float).toModel.unpack = .zero .positive := rfl

theorem beq_iff_compare {x y : Float} :
    (x == y) = true ↔ x.toModel.unpack.compare y.toModel.unpack = some .eq := by
  change (x.toModel.unpack.compare y.toModel.unpack == some .eq) = true ↔ _
  exact beq_iff_eq

theorem compare_self {f : UnpackedFloat} (number : f.isNaN = false) :
    f.compare f = some .eq := by
  cases f with
  | notANumber => cases number
  | infinity s => cases s <;> rfl
  | zero s => rfl
  | finite s m e pos =>
    have same : (compare e e).then (compare m m) = .eq := by
      rw [compare_eq_iff_eq.mpr rfl, compare_eq_iff_eq.mpr rfl]
      rfl
    cases s with
    | positive => exact congrArg some same
    | negative => exact congrArg (fun o => some o.swap) same

/-- What equals one zero is a zero, and all zeros are equal. -/
theorem compare_zero_symm {f : UnpackedFloat} {s : UnpackedFloat.Sign}
    (h : f.compare (.zero s) = some .eq) : (UnpackedFloat.zero s).compare f = some .eq := by
  cases f with
  | notANumber => cases h
  | infinity t => cases t <;> cases h
  | zero t => rfl
  | finite t m e pos => cases t <;> cases h

end RouteAlerts.Decimal
