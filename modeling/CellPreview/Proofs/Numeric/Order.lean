import CellPreview.Proofs.Numeric.Rounding
import Mathlib.Data.Nat.Log
import Mathlib.Data.Rat.Cast.Order
import Mathlib.Order.Monotone.Basic

/-!
# The order of binary64 numbers

Rounding keeps the order of quotients, so the magnitudes are ordered as the
absolute values they stand for, and the comparison of positions is the
comparison of values. Every integer of at most 53 bits is a value, and every
64-bit integer is rounded to one, in order.
-/

namespace CellPreview
namespace Numeric

/-! ## Rounding keeps the order -/

theorem div_le_roundHalfEven (numerator denominator : Nat) :
    numerator / denominator ≤ roundHalfEven numerator denominator := by
  unfold roundHalfEven
  grind

theorem roundHalfEven_mono
    {first second : Nat}
    (le : first ≤ second)
    (denominator : Nat) :
    roundHalfEven first denominator ≤ roundHalfEven second denominator := by
  have quotients : first / denominator ≤ second / denominator :=
    Nat.div_le_div_right le
  obtain below | same := Nat.lt_or_eq_of_le quotients
  · calc roundHalfEven first denominator
      _ ≤ first / denominator + 1 := roundHalfEven_le first denominator
      _ ≤ second / denominator := below
      _ ≤ roundHalfEven second denominator := div_le_roundHalfEven _ _
  · -- with one quotient it is the larger rest that is rounded up
    have firstParts := Nat.div_add_mod first denominator
    have secondParts := Nat.div_add_mod second denominator
    rw [← same] at secondParts
    have rests : first % denominator ≤ second % denominator := by omega
    simp only [roundHalfEven, same]
    grind

namespace Binary64

/-- Below the next exponent a quotient is rounded to at most the first
magnitude of that exponent. -/
theorem nearest_le (numerator denominator : Nat) :
    nearest numerator denominator ≤
      ((numerator / denominator).log2 - 52 + 2) * stride := by
  rw [nearest_eq]
  generalize shiftEq : (numerator / denominator).log2 - 52 = shift
  have small : numerator / denominator < 2 ^ shift * 2 ^ 53 := by
    rw [← Nat.pow_add]
    exact Nat.lt_of_lt_of_le Nat.lt_log2_self
      (Nat.pow_le_pow_right (by decide) (by omega))
  have quotient : numerator / (denominator * 2 ^ shift) < 2 ^ 53 := by
    rw [← Nat.div_div_eq_div_mul]
    exact Nat.div_lt_of_lt_mul small
  calc (_ : Nat)
    _ ≤ shift * stride + (numerator / (denominator * 2 ^ shift) + 1) :=
        Nat.add_le_add_left (roundHalfEven_le _ _) _
    _ ≤ shift * stride + 2 ^ 53 := Nat.add_le_add_left quotient _
    _ = (shift + 2) * stride := by
        rw [stride_eq]
        ring

/-- A quotient whose last place is shifted is rounded to at least the first
magnitude of its exponent. -/
theorem le_nearest
    {numerator denominator : Nat}
    (shifted : 0 < (numerator / denominator).log2 - 52) :
    ((numerator / denominator).log2 - 52 + 1) * stride ≤
      nearest numerator denominator := by
  have positive : numerator / denominator ≠ 0 := by
    intro isZero
    rw [isZero, Nat.log2_zero] at shifted
    omega
  have large : 2 ^ (numerator / denominator).log2 ≤ numerator / denominator :=
    Nat.log2_self_le positive
  rw [nearest_eq]
  generalize shiftEq : (numerator / denominator).log2 - 52 = shift at shifted ⊢
  have logEq : (numerator / denominator).log2 = shift + 52 := by omega
  have quotient : stride ≤ numerator / (denominator * 2 ^ shift) := by
    rw [← Nat.div_div_eq_div_mul, Nat.le_div_iff_mul_le (Nat.two_pow_pos _),
      stride_eq, Nat.mul_comm, ← Nat.pow_add, ← logEq]
    exact large
  calc (shift + 1) * stride
    _ = shift * stride + stride := Nat.succ_mul _ _
    _ ≤ shift * stride + numerator / (denominator * 2 ^ shift) :=
        Nat.add_le_add_left quotient _
    _ ≤ _ := Nat.add_le_add_left (div_le_roundHalfEven _ _) _

/-- The larger of two quotients is not rounded to the smaller magnitude. -/
theorem nearest_mono
    {first second : Nat}
    (le : first ≤ second)
    (denominator : Nat) :
    nearest first denominator ≤ nearest second denominator := by
  have quotients : first / denominator ≤ second / denominator :=
    Nat.div_le_div_right le
  have logs : (first / denominator).log2 ≤ (second / denominator).log2 := by
    rw [Nat.log2_eq_log_two, Nat.log2_eq_log_two]
    exact Nat.log_mono_right quotients
  by_cases same : (first / denominator).log2 - 52 =
      (second / denominator).log2 - 52
  · rw [nearest_eq, nearest_eq, same]
    exact Nat.add_le_add_left (roundHalfEven_mono le _) _
  · calc nearest first denominator
      _ ≤ ((first / denominator).log2 - 52 + 2) * stride := nearest_le _ _
      _ ≤ ((second / denominator).log2 - 52 + 1) * stride :=
          Nat.mul_le_mul_right _ (by omega)
      _ ≤ nearest second denominator := le_nearest (by omega)

@[simp] theorem nearest_zero (denominator : Nat) :
    nearest 0 denominator = 0 := by
  simp [nearest_eq, roundHalfEven]

/-- Larger magnitudes stand for larger absolute values. -/
theorem units_strictMono : StrictMono units := by
  intro first second below
  by_contra notBelow
  have rounded := nearest_mono (Nat.le_of_not_lt notBelow) 1
  have firstRounded := nearest_units Nat.one_pos first
  have secondRounded := nearest_units Nat.one_pos second
  rw [Nat.mul_one] at firstRounded secondRounded
  omega

/-! ## Values -/

/-- Units of `2 ^ (-1074)` in the number `1`. -/
def unitsInOne : Nat := Nat.pow 2 1074

/-- The exponent is kept apart, since no proof computes the power. -/
theorem exists_unitsInOne_eq :
    ∃ exponent, exponent = 1074 ∧ unitsInOne = 2 ^ exponent :=
  ⟨1074, rfl, rfl⟩

theorem unitsInOne_pos : 0 < unitsInOne := by
  obtain ⟨exponent, _, unitsEq⟩ := exists_unitsInOne_eq
  rw [unitsEq]
  exact Nat.two_pow_pos exponent

/-- The value of a number in units of `2 ^ (-1074)`. -/
def signedUnits (number : Binary64) : Int :=
  if number.negative then -(units number.magnitude : Int)
  else units number.magnitude

/-- The rational value of a number. Both zeros have the value `0`. -/
def value (number : Binary64) : ℚ :=
  number.signedUnits / unitsInOne

theorem value_le_value_iff {first second : Binary64} :
    first.value ≤ second.value ↔ first.signedUnits ≤ second.signedUnits := by
  have positive : (0 : ℚ) < unitsInOne := Nat.cast_pos.mpr unitsInOne_pos
  rw [value, value, div_le_div_iff_of_pos_right positive, Int.cast_le]

/-- The comparison of numbers is the comparison of their values. -/
theorem atMost_iff {first second : Binary64} :
    first.atMost second ↔ first.value ≤ second.value := by
  have isZero (magnitude : Nat) : units magnitude = 0 ↔ magnitude = 0 :=
    ⟨fun none => by
      by_contra nonzero
      have := units_pos (Nat.pos_of_ne_zero nonzero)
      omega, fun none => by rw [none]; rfl⟩
  have firstZero := isZero first.magnitude
  have secondZero := isZero second.magnitude
  have onwards : units first.magnitude ≤ units second.magnitude ↔
      first.magnitude ≤ second.magnitude := units_strictMono.le_iff_le
  have backwards : units second.magnitude ≤ units first.magnitude ↔
      second.magnitude ≤ first.magnitude := units_strictMono.le_iff_le
  rw [value_le_value_iff, atMost, decide_eq_true_eq, position, position,
    signedUnits, signedUnits]
  cases first.negative <;> cases second.negative <;>
    simp only [Bool.false_eq_true, if_true, if_false] <;> omega

theorem atMost_total (first second : Binary64) :
    first.atMost second ∨ second.atMost first := by
  rw [atMost_iff, atMost_iff]
  exact le_total first.value second.value

theorem atMost_trans
    {first second third : Binary64}
    (firstAtMost : first.atMost second)
    (secondAtMost : second.atMost third) :
    first.atMost third := by
  rw [atMost_iff] at firstAtMost secondAtMost ⊢
  exact firstAtMost.trans secondAtMost

/-! ## Integers -/

/-- A significand with its leading bit, at an exponent. -/
theorem units_of_significand
    {significand : Nat}
    (large : stride ≤ significand)
    (small : significand < 2 ^ 53)
    (exponent : Nat) :
    units (exponent * stride + significand) = significand * 2 ^ exponent := by
  have bits : significand - stride < stride := by
    rw [stride_eq] at large ⊢
    omega
  have parts : exponent * stride + significand =
      (significand - stride) + stride * (exponent + 1) := by
    rw [Nat.mul_succ, Nat.mul_comm stride]
    omega
  have quotient : (exponent * stride + significand) / stride = exponent + 1 := by
    rw [parts, Nat.add_mul_div_left _ _ stride_pos, Nat.div_eq_of_lt bits,
      Nat.zero_add]
  have remainder : (exponent * stride + significand) % stride =
      significand - stride := by
    rw [parts, Nat.add_mul_mod_self_left, Nat.mod_eq_of_lt bits]
  rw [units_of_div quotient, remainder, Nat.add_sub_cancel' large]

/-- What has at most 53 significant bits is not changed by rounding. -/
theorem units_nearest
    {significand : Nat}
    (small : significand < 2 ^ 53)
    (exponent : Nat) :
    units (nearest (significand * 2 ^ exponent) 1) =
      significand * 2 ^ exponent := by
  obtain rfl | positive := Nat.eq_zero_or_pos significand
  · rw [Nat.zero_mul, nearest_zero]
    rfl
  generalize numberEq : significand * 2 ^ exponent = number
  have nonzero : number ≠ 0 := by
    rw [← numberEq]
    positivity
  have below : number < 2 ^ (53 + exponent) := by
    rw [← numberEq, Nat.pow_add]
    exact Nat.mul_lt_mul_of_pos_right small (Nat.two_pow_pos _)
  have log := (Nat.log2_lt nonzero).mpr below
  -- the last place of the number is no further to the right than its shift
  obtain ⟨quotient, quotientEq⟩ :
      ∃ quotient, number = quotient * 2 ^ (number.log2 - 52) := by
    have divides : 2 ^ (number.log2 - 52) ∣ significand * 2 ^ exponent :=
      (pow_dvd_pow 2 (by omega)).mul_left significand
    rw [numberEq] at divides
    exact divides.imp fun _ same => same.trans (Nat.mul_comm _ _)
  have rounded : nearest number 1 =
      (number.log2 - 52) * stride + quotient := by
    rw [nearest_eq, Nat.div_one, Nat.one_mul]
    conv => lhs; arg 2; arg 1; rw [quotientEq]
    rw [roundHalfEven_whole (Nat.two_pow_pos _)]
  have quotientSmall : quotient < 2 ^ 53 := by
    have high := @Nat.lt_log2_self number
    refine Nat.lt_of_mul_lt_mul_right (a := 2 ^ (number.log2 - 52)) ?_
    calc quotient * 2 ^ (number.log2 - 52)
      _ = number := quotientEq.symm
      _ < 2 ^ (number.log2 + 1) := high
      _ ≤ 2 ^ (53 + (number.log2 - 52)) :=
          Nat.pow_le_pow_right (by decide) (by omega)
      _ = 2 ^ 53 * 2 ^ (number.log2 - 52) := Nat.pow_add _ _ _
  rw [rounded]
  obtain quotientBelow | quotientLarge := Nat.lt_or_ge quotient stride
  · -- a smaller quotient is the whole number, without a shift
    have unshifted : number.log2 - 52 = 0 := by
      by_contra shifted
      have low := Nat.log2_self_le nonzero
      have : 2 ^ number.log2 < 2 ^ (52 + (number.log2 - 52)) := by
        calc 2 ^ number.log2
          _ ≤ number := low
          _ = quotient * 2 ^ (number.log2 - 52) := quotientEq
          _ < stride * 2 ^ (number.log2 - 52) :=
              Nat.mul_lt_mul_of_pos_right quotientBelow (Nat.two_pow_pos _)
          _ = 2 ^ (52 + (number.log2 - 52)) := (Nat.pow_add _ _ _).symm
      have := (Nat.pow_lt_pow_iff_right (by decide)).mp this
      omega
    rw [unshifted, Nat.pow_zero, Nat.mul_one] at quotientEq
    rw [unshifted, Nat.zero_mul, Nat.zero_add, units_of_lt quotientBelow,
      quotientEq]
  · rw [units_of_significand quotientLarge quotientSmall, ← quotientEq]

/-- Every natural number of at most 53 bits, and the first of 54, is a
value. -/
theorem units_nearest_natural
    {number : Nat}
    (within : number ≤ 2 ^ 53) :
    units (nearest (number * unitsInOne) 1) = number * unitsInOne := by
  obtain ⟨exponent, _, unitsEq⟩ := exists_unitsInOne_eq
  rw [unitsEq]
  obtain below | rfl := Nat.lt_or_eq_of_le within
  · exact units_nearest below exponent
  · have power := @units_nearest 1 (by decide) (53 + exponent)
    rwa [Nat.one_mul, Nat.pow_add] at power

/-- A natural number of at most 63 bits, and the first of 64, at an
exponent. -/
theorem nearest_mul_two_pow_le
    {number : Nat}
    (within : number ≤ 2 ^ 63)
    (exponent : Nat) :
    nearest (number * 2 ^ exponent) 1 ≤ (exponent + 13) * stride := by
  have bound : number * 2 ^ exponent ≤ 2 ^ (63 + exponent) := by
    rw [Nat.pow_add]
    exact Nat.mul_le_mul_right _ within
  have powerBound := nearest_le (2 ^ (63 + exponent)) 1
  rw [Nat.div_one, Nat.log2_two_pow] at powerBound
  have shift : 63 + exponent - 52 + 2 ≤ exponent + 13 := by omega
  calc nearest (number * 2 ^ exponent) 1
    _ ≤ nearest (2 ^ (63 + exponent)) 1 := nearest_mono bound 1
    _ ≤ (63 + exponent - 52 + 2) * stride := powerBound
    _ ≤ (exponent + 13) * stride := Nat.mul_le_mul_right stride shift

/-- A 64-bit integer is rounded to a finite magnitude. -/
theorem nearest_natural_lt_limit
    {number : Nat}
    (within : number ≤ 2 ^ 63) :
    nearest (number * unitsInOne) 1 < limit := by
  obtain ⟨exponent, exponentEq, unitsEq⟩ := exists_unitsInOne_eq
  have bound := nearest_mul_two_pow_le within exponent
  rw [← unitsEq, exponentEq] at bound
  exact Nat.lt_of_le_of_lt bound (by decide)

end Binary64

/-- A natural number with a sign. -/
def signed (negative : Bool) (number : Nat) : Int :=
  if negative then -(number : Int) else number

@[simp] theorem natAbs_signed (negative : Bool) (number : Nat) :
    (signed negative number).natAbs = number := by
  cases negative <;> simp [signed]

/-- An integer is its absolute value with its sign. -/
theorem signed_natAbs (number : Int) :
    signed (number < 0) number.natAbs = number := by
  simp only [signed, decide_eq_true_eq]
  split <;> omega

namespace Binary64

theorem ofQuotient?_natural
    {number : Nat}
    (within : number ≤ 2 ^ 63)
    (negative : Bool) :
    ofQuotient? negative number 1 =
      some ⟨negative, nearest (number * unitsInOne) 1,
        nearest_natural_lt_limit within⟩ := by
  rw [ofQuotient?, ← unitsInOne, ofMagnitude?,
    dif_pos (nearest_natural_lt_limit within)]

/-- An integer of at most 53 bits is the value that it is rounded to. -/
theorem exists_ofQuotient?_natural
    {number : Nat}
    (within : number ≤ 2 ^ 53)
    (negative : Bool) :
    ∃ rounded, ofQuotient? negative number 1 = some rounded ∧
      rounded.value = signed negative number := by
  refine ⟨_, ofQuotient?_natural (within.trans (by decide)) negative, ?_⟩
  have nonzero : (unitsInOne : ℚ) ≠ 0 :=
    Nat.cast_ne_zero.mpr unitsInOne_pos.ne'
  -- the unit is kept general, since no proof computes it
  have scaled (unit : Nat) :
      ((if negative then -((number * unit : Nat) : Int)
        else ((number * unit : Nat) : Int) : Int) : ℚ) =
          signed negative number * unit := by
    cases negative <;> simp [signed]
  rw [value, signedUnits, units_nearest_natural within, div_eq_iff nonzero]
  exact scaled unitsInOne

/-- Integers of at most 64 bits are rounded to numbers in the same order. -/
theorem atMost_of_signed_le
    {first second : Nat}
    {firstNegative secondNegative : Bool}
    {firstRounded secondRounded : Binary64}
    (firstWithin : first ≤ 2 ^ 63)
    (secondWithin : second ≤ 2 ^ 63)
    (isFirst : ofQuotient? firstNegative first 1 = some firstRounded)
    (isSecond : ofQuotient? secondNegative second 1 = some secondRounded)
    (le : signed firstNegative first ≤ signed secondNegative second) :
    firstRounded.atMost secondRounded := by
  rw [ofQuotient?_natural firstWithin] at isFirst
  rw [ofQuotient?_natural secondWithin] at isSecond
  cases isFirst
  cases isSecond
  have onwards (within : first ≤ second) :=
    nearest_mono (Nat.mul_le_mul_right unitsInOne within) 1
  have backwards (within : second ≤ first) :=
    nearest_mono (Nat.mul_le_mul_right unitsInOne within) 1
  rw [atMost, decide_eq_true_eq, position, position]
  cases firstNegative <;> cases secondNegative <;>
    simp only [signed, Bool.false_eq_true, if_true, if_false] at le ⊢
  · exact_mod_cast onwards (by omega)
  · -- a natural number is at most a negated one only if both are zero
    obtain ⟨rfl, rfl⟩ : first = 0 ∧ second = 0 := by omega
    rw [Nat.zero_mul, nearest_zero]
    rfl
  · omega
  · have := backwards (by omega)
    omega

end Binary64
end Numeric
end CellPreview
