import CellPreview.Numeric.Shortest
import CellPreview.Proofs.Numeric.Rounding

/-!
# Shortest decimals read back

The decimal shown for a number is rounded to that number, whichever cut of the
exact expansion it is, and the exact expansion itself is too. It has less than
768 significant digits, since the units of a number have at most 53 significant
bits.
-/

namespace CellPreview
namespace Numeric
namespace Binary64

/-- The units of a magnitude may be written with any power of ten below. -/
theorem nearest_expanded (magnitude power : Nat) :
    nearest (units magnitude * 5 ^ power * 2 ^ power) (10 ^ power) =
      magnitude := by
  have scale : 5 ^ power * 2 ^ power = 10 ^ power := (Nat.mul_pow 5 2 power).symm
  rw [Nat.mul_assoc, scale, nearest_units (Nat.pow_pos (by decide))]

theorem ofMagnitude?_magnitude (number : Binary64) :
    ofMagnitude? number.negative number.magnitude = some number := by
  rw [ofMagnitude?, dif_pos number.finite]

theorem expansion_eq (number : Binary64) :
    number.expansion = units number.magnitude * 5 ^ 1074 := by
  rw [expansion, Nat.pow_eq]

theorem digits_exactDecimal (number : Binary64) :
    number.exactDecimal.digits = number.expansion := by
  rw [exactDecimal]

/-- The exact expansion stays below the powers of ten that are too large. -/
theorem expansion_lt (number : Binary64) : number.expansion < 10 ^ 1384 := by
  obtain ⟨significand, exponent, same, small, bound⟩ :=
    exists_units_eq number.finite
  calc number.expansion
    _ = significand * 2 ^ exponent * 5 ^ 1074 := by rw [expansion_eq, same]
    _ ≤ 2 ^ 53 * 2 ^ 2045 * 5 ^ 1074 := by gcongr; decide
    _ < 10 ^ 1384 := by decide +kernel

theorem expansion_pos
    {number : Binary64}
    (nonzero : number.magnitude ≠ 0) :
    0 < number.expansion := by
  have unitsPositive := units_pos (Nat.pos_of_ne_zero nonzero)
  rw [expansion_eq]
  positivity

theorem two_pow_mul_five_pow (power : Nat) :
    2 ^ power * 5 ^ power = 10 ^ power :=
  (Nat.mul_pow 2 5 power).symm

/-- Most digits of the exact expansion of a number are zeros at its end, or
there are not many. -/
theorem exists_significant_expansion (number : Binary64) :
    ∃ significant zeros, number.expansion = significant * 10 ^ zeros ∧
      significant < 10 ^ 767 := by
  obtain ⟨significand, exponent, same, small, bound⟩ :=
    exists_units_eq number.finite
  have expanded : number.expansion = significand * 2 ^ exponent * 5 ^ 1074 := by
    rw [expansion_eq, same]
  -- Each factor two pairs up with one of the 1074 factors five to give a zero.
  obtain few | many := Nat.le_total exponent 1074
  · refine ⟨significand * 5 ^ (1074 - exponent), exponent, ?_, ?_⟩
    · have scale : 2 ^ exponent * 5 ^ (1074 - exponent + exponent) =
          5 ^ (1074 - exponent) * 10 ^ exponent := by
        rw [Nat.pow_add, Nat.mul_left_comm, two_pow_mul_five_pow]
      rw [expanded, Nat.mul_assoc, Nat.mul_assoc, ← scale,
        Nat.sub_add_cancel few]
    · calc significand * 5 ^ (1074 - exponent)
        _ ≤ 2 ^ 53 * 5 ^ 1074 := by
            gcongr
            · decide
            · exact Nat.sub_le _ _
        _ < 10 ^ 767 := by decide +kernel
  · refine ⟨significand * 2 ^ (exponent - 1074), 1074, ?_, ?_⟩
    · have scale : 2 ^ (exponent - 1074 + 1074) * 5 ^ 1074 =
          2 ^ (exponent - 1074) * 10 ^ 1074 := by
        rw [Nat.pow_add, Nat.mul_assoc, two_pow_mul_five_pow]
      rw [expanded, Nat.mul_assoc, Nat.mul_assoc, ← scale,
        Nat.sub_add_cancel many]
    · calc significand * 2 ^ (exponent - 1074)
        _ ≤ 2 ^ 53 * 2 ^ 971 := by
            gcongr
            · decide
            · omega
        _ < 10 ^ 767 := by decide +kernel

theorem leading_exactDecimal (number : Binary64) :
    number.exactDecimal.leading =
      -1074 + ((Text.ofNat number.expansion).length : Int) := by
  rw [Decimal.leading, exactDecimal, Text.ofNat]

/-- The exact value of a number is not too large. -/
theorem leading_exactDecimal_le (number : Binary64) :
    number.exactDecimal.leading ≤ 310 := by
  have length : (Text.ofNat number.expansion).length ≤ 1384 :=
    (Text.length_ofNat_le_iff (by decide)).mpr number.expansion_lt
  rw [leading_exactDecimal]
  omega

/-- The exact value of a number other than zero is not too small. -/
theorem le_leading_exactDecimal
    (number : Binary64)
    (nonzero : number.magnitude ≠ 0) :
    -330 ≤ number.exactDecimal.leading := by
  have large : 10 ^ 743 ≤ number.expansion := by
    calc 10 ^ 743
      _ ≤ 1 * 5 ^ 1074 := by decide +kernel
      _ ≤ units number.magnitude * 5 ^ 1074 := by
          gcongr
          exact units_pos (Nat.pos_of_ne_zero nonzero)
      _ = number.expansion := number.expansion_eq.symm
  have length : ¬(Text.ofNat number.expansion).length ≤ 743 := by
    rw [Text.length_ofNat_le_iff (by decide)]
    exact Nat.not_lt.mpr large
  rw [leading_exactDecimal]
  omega

/-- A number is rounded from its exact value. -/
theorem toBinary64?_exactDecimal (number : Binary64) :
    number.exactDecimal.toBinary64? = some number := by
  rw [Decimal.toBinary64?_eq, digits_exactDecimal]
  by_cases isZero : number.magnitude = 0
  · have noUnits : number.expansion = 0 := by
      rw [expansion_eq, isZero, units_of_lt stride_pos, Nat.zero_mul]
    rw [if_pos noUnits, exactDecimal, ← ofMagnitude?_magnitude number, isZero]
    rfl
  · have positive := expansion_pos isZero
    have lower := number.le_leading_exactDecimal isZero
    have upper := number.leading_exactDecimal_le
    rw [if_neg positive.ne', if_neg (by omega), if_neg (by omega)]
    calc _
      _ = ofQuotient? number.negative number.expansion (10 ^ 1074) := by
          rw [exactDecimal]
          simp
      _ = ofMagnitude? number.negative number.magnitude := by
          simp only [ofQuotient?, Nat.pow_eq, expansion_eq, nearest_expanded]
      _ = some number := ofMagnitude?_magnitude number

/-- The shortest decimal is one of the cuts or the exact value. -/
theorem shortest_cases (number : Binary64) :
    number.shortest = number.exactDecimal ∨
      ∃ count < 17, number.cut? ((Nat.toDigits 10 number.expansion).length -
        (count + 1)) = some number.shortest := by
  cases found : (List.range 17).findSome? fun count =>
    number.cut? ((Nat.toDigits 10 number.expansion).length - (count + 1)) with
  | none => exact .inl (by simp only [shortest, found, Option.getD_none])
  | some decimal =>
      have isShortest : number.shortest = decimal := by
        simp only [shortest, found, Option.getD_some]
      obtain ⟨count, present, isCut⟩ := List.exists_of_findSome?_eq_some found
      rw [isShortest]
      exact .inr ⟨count, List.mem_range.mp present, isCut⟩

/-- A cut is rounded to the number, has its sign and is not much longer than
what was not cut off. -/
theorem cut?_eq_some
    {number : Binary64}
    {dropped : Nat}
    {decimal : Decimal}
    (isCut : number.cut? dropped = some decimal) :
    decimal.toBinary64? = some number ∧ decimal.negative = number.negative ∧
      decimal.digits ≤ number.expansion / 10 ^ dropped + 1 := by
  have rounded := List.find?_some isCut
  have present := List.mem_of_find?_eq_some isCut
  have bound := roundHalfEven_le number.expansion (10 ^ dropped)
  simp only [List.map_cons, List.map_nil, List.mem_cons, List.not_mem_nil,
    or_false, Nat.pow_eq] at present
  refine ⟨by simpa using rounded, ?_⟩
  obtain rfl | rfl := present
  · exact ⟨rfl, bound⟩
  · refine ⟨rfl, ?_⟩
    dsimp only
    split <;> omega

/-- The shortest decimal of a number is rounded to the number. -/
theorem toBinary64?_shortest (number : Binary64) :
    number.shortest.toBinary64? = some number := by
  obtain isExact | ⟨_, _, isCut⟩ := number.shortest_cases
  · rw [isExact, toBinary64?_exactDecimal]
  · exact (cut?_eq_some isCut).1

theorem negative_shortest (number : Binary64) :
    number.shortest.negative = number.negative := by
  obtain isExact | ⟨_, _, isCut⟩ := number.shortest_cases
  · rw [isExact, exactDecimal]
  · exact (cut?_eq_some isCut).2.1

/-- The shortest decimal has less than 768 significant digits. -/
theorem exists_significant_shortest (number : Binary64) :
    ∃ significant zeros, number.shortest.digits = significant * 10 ^ zeros ∧
      significant < 10 ^ 767 := by
  obtain isExact | ⟨count, small, isCut⟩ := number.shortest_cases
  · rw [isExact]
    exact number.exists_significant_expansion
  · obtain ⟨_, _, bound⟩ := cut?_eq_some isCut
    refine ⟨number.shortest.digits, 0, by simp, ?_⟩
    generalize isLength : (Nat.toDigits 10 number.expansion).length = length
      at bound
    have positive : 0 < count + 1 + (length - (count + 1)) := by omega
    have below : number.expansion < 10 ^ (count + 1 + (length - (count + 1))) :=
      (Text.length_ofNat_le_iff positive).mp (by rw [Text.ofNat]; omega)
    have kept : number.expansion / 10 ^ (length - (count + 1)) <
        10 ^ (count + 1) := by
      rw [Nat.pow_add] at below
      exact Nat.div_lt_of_lt_mul (by rwa [Nat.mul_comm])
    calc number.shortest.digits
      _ ≤ 10 ^ (count + 1) := bound.trans kept
      _ ≤ 10 ^ 17 := Nat.pow_le_pow_right (by decide) (by omega)
      _ < 10 ^ 767 := by decide +kernel

end Binary64
end Numeric
end CellPreview
