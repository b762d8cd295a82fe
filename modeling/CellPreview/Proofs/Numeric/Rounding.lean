import CellPreview.Numeric.Decimal
import CellPreview.Proofs.Text.Digits
import Mathlib.Tactic.GCongr
import Mathlib.Tactic.Positivity
import Mathlib.Tactic.Ring

/-!
# Rounding to binary64

Rounding a quotient looks at its value only: equal quotients and decimals of
equal value go to the same number. A number is what its own absolute value is
rounded to.
-/

namespace CellPreview
namespace Numeric

/-! ## Quotients -/

/-- A common factor of a quotient does not matter. -/
theorem roundHalfEven_mul
    {factor : Nat}
    (positive : 0 < factor)
    (numerator denominator : Nat) :
    roundHalfEven (numerator * factor) (denominator * factor) =
      roundHalfEven numerator denominator := by
  have quotient : numerator * factor / (denominator * factor) =
      numerator / denominator :=
    Nat.mul_div_mul_right _ _ positive
  have remainder : numerator * factor % (denominator * factor) =
      numerator % denominator * factor :=
    Nat.mul_mod_mul_right _ _ _
  have below : 2 * (numerator % denominator * factor) < denominator * factor ↔
      2 * (numerator % denominator) < denominator := by
    rw [← Nat.mul_assoc, Nat.mul_lt_mul_right positive]
  have above : denominator * factor < 2 * (numerator % denominator * factor) ↔
      denominator < 2 * (numerator % denominator) := by
    rw [← Nat.mul_assoc, Nat.mul_lt_mul_right positive]
  simp only [roundHalfEven, quotient, remainder, below, above]

/-- A whole quotient is not changed. -/
theorem roundHalfEven_whole
    {denominator : Nat}
    (positive : 0 < denominator)
    (number : Nat) :
    roundHalfEven (number * denominator) denominator = number := by
  simp [roundHalfEven, Nat.mul_div_cancel _ positive, positive]

theorem roundHalfEven_le (numerator denominator : Nat) :
    roundHalfEven numerator denominator ≤ numerator / denominator + 1 := by
  unfold roundHalfEven
  grind

namespace Binary64

theorem nearest_eq (numerator denominator : Nat) :
    nearest numerator denominator =
      ((numerator / denominator).log2 - 52) * stride +
        roundHalfEven numerator
          (denominator * 2 ^ ((numerator / denominator).log2 - 52)) := rfl

/-- Equal quotients are rounded to the same magnitude. -/
theorem nearest_congr
    {numerator denominator other divisor : Nat}
    (positive : 0 < denominator)
    (divisorPositive : 0 < divisor)
    (same : numerator * divisor = other * denominator) :
    nearest numerator denominator = nearest other divisor := by
  have quotient : numerator / denominator = other / divisor := by
    rw [← Nat.mul_div_mul_right _ _ divisorPositive, same,
      Nat.mul_comm denominator, Nat.mul_div_mul_right _ _ positive]
  rw [nearest_eq, nearest_eq, quotient]
  congr 1
  generalize 2 ^ ((other / divisor).log2 - 52) = scale
  calc roundHalfEven numerator (denominator * scale)
    _ = roundHalfEven (numerator * divisor) (denominator * scale * divisor) :=
        (roundHalfEven_mul divisorPositive _ _).symm
    _ = roundHalfEven (other * denominator) (divisor * scale * denominator) := by
        rw [same]
        congr 1
        ring
    _ = roundHalfEven other (divisor * scale) :=
        roundHalfEven_mul positive _ _

/-- Equal quotients are rounded to the same number. -/
theorem ofQuotient?_congr
    {numerator denominator other divisor : Nat}
    (positive : 0 < denominator)
    (divisorPositive : 0 < divisor)
    (same : numerator * divisor = other * denominator)
    (negative : Bool) :
    ofQuotient? negative numerator denominator =
      ofQuotient? negative other divisor := by
  unfold ofQuotient?
  generalize Nat.pow 2 1074 = scale
  have scaled : numerator * scale * divisor = other * scale * denominator := by
    rw [Nat.mul_right_comm, same, Nat.mul_right_comm]
  rw [nearest_congr positive divisorPositive scaled]

/-! ## Units of a magnitude -/

theorem stride_eq : stride = 2 ^ 52 := rfl

theorem stride_pos : 0 < stride := by
  decide

theorem units_of_lt
    {magnitude : Nat}
    (small : magnitude < stride) :
    units magnitude = magnitude := by
  rw [units, Nat.div_eq_of_lt small]

theorem units_of_div
    {magnitude exponent : Nat}
    (quotient : magnitude / stride = exponent + 1) :
    units magnitude = (stride + magnitude % stride) * 2 ^ exponent := by
  rw [units, quotient]
  rfl

theorem units_pos
    {magnitude : Nat}
    (positive : 0 < magnitude) :
    0 < units magnitude := by
  cases quotient : magnitude / stride with
  | zero => rwa [units_of_lt ((Nat.div_eq_zero_iff_lt stride_pos).mp quotient)]
  | succ exponent =>
      have := stride_pos
      rw [units_of_div quotient]
      positivity

/-- The shift of the last place that belongs to a magnitude. -/
theorem log2_units
    {magnitude exponent : Nat}
    (quotient : magnitude / stride = exponent + 1) :
    (units magnitude).log2 = 52 + exponent := by
  have smaller : magnitude % stride < stride := Nat.mod_lt _ stride_pos
  have positive : units magnitude ≠ 0 := by
    refine (units_pos (Nat.pos_of_ne_zero ?_)).ne'
    rintro rfl
    simp at quotient
  rw [Nat.log2_eq_iff positive, units_of_div quotient]
  constructor
  · rw [Nat.pow_add]
    exact Nat.mul_le_mul_right _ (Nat.le_add_right _ _)
  · calc (stride + magnitude % stride) * 2 ^ exponent
      _ < (stride + stride) * 2 ^ exponent := by gcongr
      _ = 2 ^ (52 + exponent + 1) := by
          rw [stride_eq]
          ring

/-- A magnitude is the nearest one to its own units. -/
theorem nearest_units
    {denominator : Nat}
    (positive : 0 < denominator)
    (magnitude : Nat) :
    nearest (units magnitude * denominator) denominator = magnitude := by
  rw [nearest_eq, Nat.mul_div_cancel _ positive]
  -- Below the stride a magnitude counts units; above it the last place is
  -- shifted by the exponent.
  cases quotient : magnitude / stride with
  | zero =>
      have small : magnitude < stride :=
        (Nat.div_eq_zero_iff_lt stride_pos).mp quotient
      have unshifted : (units magnitude).log2 - 52 = 0 := by
        rw [units_of_lt small]
        by_cases isZero : magnitude = 0
        · simp [isZero]
        · have := (Nat.log2_lt isZero).mpr small
          omega
      rw [unshifted, units_of_lt small]
      simpa using roundHalfEven_whole positive magnitude
  | succ exponent =>
      have shifted : (units magnitude).log2 - 52 = exponent := by
        rw [log2_units quotient, Nat.add_sub_cancel_left]
      have scalePositive : 0 < denominator * 2 ^ exponent := by positivity
      calc (_ : Nat)
        _ = exponent * stride + roundHalfEven
              ((stride + magnitude % stride) * (denominator * 2 ^ exponent))
              (denominator * 2 ^ exponent) := by
            rw [shifted, units_of_div quotient]
            congr 2
            ring
        _ = exponent * stride + (stride + magnitude % stride) := by
            rw [roundHalfEven_whole scalePositive]
        _ = stride * (magnitude / stride) + magnitude % stride := by
            rw [quotient]
            ring
        _ = magnitude := Nat.div_add_mod _ _

/-- The units of a finite magnitude have at most 53 significant bits, and none
above the 2098th. -/
theorem exists_units_eq
    {magnitude : Nat}
    (finite : magnitude < limit) :
    ∃ significand exponent, units magnitude = significand * 2 ^ exponent ∧
      significand < 2 ^ 53 ∧ exponent ≤ 2045 := by
  cases quotient : magnitude / stride with
  | zero =>
      have small : magnitude < stride :=
        (Nat.div_eq_zero_iff_lt stride_pos).mp quotient
      refine ⟨magnitude, 0, by rw [units_of_lt small, pow_zero, mul_one], ?_,
        Nat.zero_le _⟩
      rw [stride_eq] at small
      omega
  | succ exponent =>
      have smaller : magnitude % stride < stride := Nat.mod_lt _ stride_pos
      have below : exponent + 1 < 0x7FF := by
        rw [← quotient]
        exact Nat.div_lt_of_lt_mul (by rwa [Nat.mul_comm])
      refine ⟨stride + magnitude % stride, exponent, units_of_div quotient, ?_,
        by omega⟩
      rw [stride_eq] at smaller ⊢
      omega

end Binary64

/-! ## Decimals -/

namespace Decimal

/-- The quotient that a decimal in range is rounded from. -/
theorem toBinary64?_eq (decimal : Decimal) :
    decimal.toBinary64? =
      if decimal.digits = 0 then some (.zero decimal.negative)
      else if 310 < decimal.leading then none
      else if decimal.leading < -330 then some (.zero decimal.negative)
      else
        Binary64.ofQuotient? decimal.negative
          (decimal.digits * 10 ^ decimal.exponent.toNat)
          (10 ^ (-decimal.exponent).toNat) := by
  obtain ⟨negative, digits, exponent⟩ := decimal
  cases exponent with
  | ofNat power => simp [toBinary64?]
  | negSucc power =>
      have noPower : (Int.negSucc power).toNat = 0 := rfl
      simp [toBinary64?, noPower]

/-- Zeros at the end of the digits are the same as a higher exponent. -/
theorem leading_shift
    {digits : Nat}
    (positive : 0 < digits)
    (negative : Bool)
    (exponent : Int)
    (zeros : Nat) :
    leading ⟨negative, digits * 10 ^ zeros, exponent - zeros⟩ =
      leading ⟨negative, digits, exponent⟩ := by
  have longer : (Nat.toDigits 10 (digits * 10 ^ zeros)).length =
      (Nat.toDigits 10 digits).length + zeros := by
    simpa [Text.ofNat] using congrArg List.length
      (Text.ofNat_mul_pow positive zeros)
  simp only [leading, longer]
  omega

/-- Decimals of equal value are rounded to the same number. -/
theorem toBinary64?_shift
    (negative : Bool)
    (digits : Nat)
    (exponent : Int)
    (zeros : Nat) :
    toBinary64? ⟨negative, digits * 10 ^ zeros, exponent - zeros⟩ =
      toBinary64? ⟨negative, digits, exponent⟩ := by
  by_cases isZero : digits = 0
  · simp [toBinary64?, isZero]
  · have positive : 0 < digits := Nat.pos_of_ne_zero isZero
    have shiftedPositive : digits * 10 ^ zeros ≠ 0 := by positivity
    rw [toBinary64?_eq, toBinary64?_eq, leading_shift positive,
      if_neg isZero, if_neg shiftedPositive]
    have sameExponent : zeros + (exponent - zeros).toNat + (-exponent).toNat =
        exponent.toNat + (-(exponent - zeros)).toNat := by
      omega
    have same : digits * 10 ^ zeros * 10 ^ (exponent - zeros).toNat *
          10 ^ (-exponent).toNat =
        digits * 10 ^ exponent.toNat * 10 ^ (-(exponent - zeros)).toNat := by
      simp only [Nat.mul_assoc, ← Nat.pow_add]
      rw [sameExponent]
    simp only [Binary64.ofQuotient?_congr (Nat.pow_pos (by decide))
      (Nat.pow_pos (by decide)) same]

/-- The leading power of a decimal that is rounded to a finite number other
than zero. -/
theorem leading_of_toBinary64?
    {decimal : Decimal}
    {number : Binary64}
    (rounded : decimal.toBinary64? = some number)
    (nonzero : number.magnitude ≠ 0) :
    decimal.digits ≠ 0 ∧ -330 ≤ decimal.leading ∧ decimal.leading ≤ 310 := by
  have notZero : some (Binary64.zero decimal.negative) ≠ some number := by
    intro same
    cases same
    exact nonzero rfl
  rw [toBinary64?_eq] at rounded
  split at rounded
  next => exact absurd rounded notZero
  next digits =>
    split at rounded
    next => cases rounded
    next notAbove =>
      split at rounded
      next => exact absurd rounded notZero
      next notBelow => exact ⟨digits, by omega, by omega⟩

end Decimal
end Numeric
end CellPreview
