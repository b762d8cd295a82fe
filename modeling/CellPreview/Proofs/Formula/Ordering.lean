import CellPreview.Formula.Comparison
import CellPreview.Proofs.Numeric.Order
import CellPreview.Proofs.Text.Blank

/-!
# The laws of the two orderings

Both orderings compare the numbers that the two values stand for, and the
numbers are ordered by what they are worth. The laws of an order thus hold of
the values that stand for numbers. Every other value is an anomaly, and
comparable to nothing.
-/

namespace CellPreview
namespace Formula

open Numeric

/-- Blanks around a value do not change what it stands for. -/
theorem number?_of_paddedTo
    {value padded : Text}
    (paddedTo : value.PaddedTo padded) :
    number? padded = number? value := by
  rw [number?, number?, paddedTo.trim_eq]

namespace Comparison

/-- The comparison of values that stand for numbers. -/
theorem ordered_of_some
    {operator : Comparison}
    {left right : Text}
    {first second : Binary64}
    (isFirst : number? left = some first)
    (isSecond : number? right = some second)
    (relation : Binary64 -> Binary64 -> Bool) :
    decide.ordered operator left right relation =
      (relation first second, none) := by
  simp only [decide.ordered, isFirst, isSecond]

/-- The comparison of values one of which stands for no number. -/
theorem ordered_of_none
    {operator : Comparison}
    {left right : Text}
    (isNone : number? left = none ∨ number? right = none)
    (relation : Binary64 -> Binary64 -> Bool) :
    decide.ordered operator left right relation =
      (false, some (.notNumeric operator left right)) := by
  unfold decide.ordered
  split
  · next isFirst isSecond =>
      rw [isFirst, isSecond] at isNone
      obtain isNone | isNone := isNone <;> cases isNone
  · rfl

theorem number?_cases (left right : Text) :
    (number? left = none ∨ number? right = none) ∨
      ∃ first second, number? left = some first ∧
        number? right = some second := by
  cases number? left <;> cases number? right <;> simp

/-- What holds of two values by an ordering holds of numbers. -/
theorem exists_of_atMost
    {left right : Text}
    (holds : (atMost.decide left right).1) :
    ∃ first second, number? left = some first ∧ number? right = some second ∧
      first.atMost second := by
  obtain isNone | ⟨first, second, isFirst, isSecond⟩ := number?_cases left right
  · rw [decide, ordered_of_none isNone] at holds
    cases holds
  · rw [decide, ordered_of_some isFirst isSecond] at holds
    exact ⟨first, second, isFirst, isSecond, holds⟩

/-- The two orderings are one, read from either side. -/
theorem atMost_eq_atLeast (left right : Text) :
    (atMost.decide left right).1 = (atLeast.decide right left).1 := by
  obtain isNone | ⟨first, second, isFirst, isSecond⟩ := number?_cases left right
  · rw [decide, decide, ordered_of_none isNone, ordered_of_none isNone.symm]
  · rw [decide, decide, ordered_of_some isFirst isSecond,
      ordered_of_some isSecond isFirst]

theorem atMost_trans
    {left middle right : Text}
    (leftAtMost : (atMost.decide left middle).1)
    (middleAtMost : (atMost.decide middle right).1) :
    (atMost.decide left right).1 := by
  obtain ⟨first, second, isFirst, isSecond, below⟩ := exists_of_atMost leftAtMost
  obtain ⟨same, third, isSame, isThird, above⟩ := exists_of_atMost middleAtMost
  obtain rfl : second = same := Option.some.inj (isSecond.symm.trans isSame)
  rw [decide, ordered_of_some isFirst isThird]
  exact Binary64.atMost_trans below above

/-- Of two numbers one is at most the other, and both are only if they are
worth the same. -/
theorem atMost_or_atLeast
    {left right : Text}
    {first second : Binary64}
    (isFirst : number? left = some first)
    (isSecond : number? right = some second) :
    ((atMost.decide left right).1 ∨ (atLeast.decide left right).1) ∧
      ((atMost.decide left right).1 ∧ (atLeast.decide left right).1 ↔
        first.value = second.value) := by
  rw [decide, decide, ordered_of_some isFirst isSecond,
    ordered_of_some isFirst isSecond]
  refine ⟨Binary64.atMost_total first second, ?_⟩
  rw [Binary64.atMost_iff, Binary64.atMost_iff]
  exact le_antisymm_iff.symm

/-- An ordering is an anomaly if one of the two values stands for no
number. -/
theorem isSome_anomaly_iff {left right : Text} :
    (atMost.decide left right).2.isSome ↔
      number? left = none ∨ number? right = none := by
  obtain isNone | ⟨first, second, isFirst, isSecond⟩ := number?_cases left right
  · rw [decide, ordered_of_none isNone]
    exact iff_of_true rfl isNone
  · rw [decide, ordered_of_some isFirst isSecond, isFirst, isSecond]
    simp

/-- The only anomaly of a comparison is that its values are no numbers. -/
theorem eq_notNumeric_of_decide
    {operator : Comparison}
    {left right : Text}
    {anomaly : Anomaly}
    (isAnomaly : (operator.decide left right).2 = some anomaly) :
    anomaly = .notNumeric operator left right := by
  cases operator with
  | equal => cases isAnomaly
  | atMost | atLeast =>
      obtain isNone | ⟨first, second, isFirst, isSecond⟩ :=
        number?_cases left right
      · rw [decide, ordered_of_none isNone] at isAnomaly
        exact (Option.some.inj isAnomaly).symm
      · rw [decide, ordered_of_some isFirst isSecond] at isAnomaly
        cases isAnomaly

/-- An ordering that is an anomaly does not hold. -/
theorem decide_of_none
    {operator : Comparison}
    (isOrdering : operator ≠ .equal)
    {left right : Text}
    (isNone : number? left = none ∨ number? right = none) :
    operator.decide left right =
      (false, some (.notNumeric operator left right)) := by
  cases operator with
  | equal => exact absurd rfl isOrdering
  | atMost | atLeast => rw [decide, ordered_of_none isNone]

/-- What an ordering decides depends on what the two values stand for only. -/
theorem decide_congr
    {operator : Comparison}
    (isOrdering : operator ≠ .equal)
    {left right left' right' : Text}
    (sameLeft : number? left' = number? left)
    (sameRight : number? right' = number? right) :
    (operator.decide left' right').1 = (operator.decide left right).1 ∧
      (operator.decide left' right').2.isSome =
        (operator.decide left right).2.isSome := by
  cases operator with
  | equal => exact absurd rfl isOrdering
  | atMost | atLeast =>
      simp only [decide, decide.ordered, sameLeft, sameRight]
      split <;> exact ⟨rfl, rfl⟩

/-- The two orderings are one order of the values that stand for numbers, read
from either side. Every other value is an anomaly and comparable to nothing,
and blanks around a value do not matter. -/
theorem orderings_are_lawful (left middle right : Text) :
    (atMost.decide left right).1 = (atLeast.decide right left).1 ∧
    ((atMost.decide left right).2.isSome ↔
      number? left = none ∨ number? right = none) ∧
    (∀ operator : Comparison, operator ≠ .equal ->
      number? left = none ∨ number? right = none ->
      operator.decide left right =
        (false, some (.notNumeric operator left right))) ∧
    (∀ first second, number? left = some first ->
      number? right = some second ->
      ((atMost.decide left right).1 ∨ (atLeast.decide left right).1) ∧
      ((atMost.decide left right).1 ∧ (atLeast.decide left right).1 ↔
        first.value = second.value)) ∧
    ((atMost.decide left middle).1 -> (atMost.decide middle right).1 ->
      (atMost.decide left right).1) ∧
    (∀ (operator : Comparison) (paddedLeft paddedRight : Text), operator ≠ .equal ->
      left.PaddedTo paddedLeft -> right.PaddedTo paddedRight ->
      (operator.decide paddedLeft paddedRight).1 = (operator.decide left right).1 ∧
      (operator.decide paddedLeft paddedRight).2.isSome =
        (operator.decide left right).2.isSome) := by
  refine ⟨atMost_eq_atLeast left right, isSome_anomaly_iff,
    fun operator isOrdering => decide_of_none isOrdering,
    fun first second => atMost_or_atLeast, atMost_trans, ?_⟩
  intro operator paddedLeft paddedRight isOrdering leftPadded rightPadded
  exact decide_congr isOrdering (number?_of_paddedTo leftPadded)
    (number?_of_paddedTo rightPadded)

/-- The two zeros, a date with blanks around it, and a word. -/
theorem orderings_are_lawful_zeros :
    let negative : Text := ['-', '0']
    let positive : Text := ['0']
    let date : Text := "1970-01-02"
    let padded : Text := "\u2003 1970-01-02\t"
    let word : Text := "inf"
    (number? negative = some (.zero true) ∧
      number? positive = some (.zero false) ∧
      ((atMost.decide negative positive).1 ∧
        (atLeast.decide negative positive).1 ↔
        (Binary64.zero true).value = (Binary64.zero false).value)) ∧
    ((atMost.decide negative positive).1 ∧ (atMost.decide positive date).1 ∧
      (atMost.decide negative date).1) ∧
    ((atMost.decide negative padded).1 = (atMost.decide negative date).1) ∧
    (number? word = none ∧ atLeast.decide word date =
      (false, some (.notNumeric .atLeast word date))) := by
  intro negative positive date padded word
  have isNegative : number? negative = some (.zero true) := by decide +kernel
  have isPositive : number? positive = some (.zero false) := by decide +kernel
  have isNone : number? word = none := by decide +kernel
  have below : (atMost.decide negative positive).1 := by decide +kernel
  have above : (atMost.decide positive date).1 := by decide +kernel
  have unpadded : negative.PaddedTo negative :=
    @Text.PaddedTo.around negative [] [] (by simp) (by simp)
  have around : date.PaddedTo padded :=
    @Text.PaddedTo.around date ['\u2003', ' '] ['\t']
      (List.all_eq_true.mp rfl) (List.all_eq_true.mp rfl)
  obtain ⟨_, _, _, numbers, _⟩ := orderings_are_lawful negative date positive
  obtain ⟨_, _, _, _, trans, blanks⟩ :=
    orderings_are_lawful negative positive date
  obtain ⟨_, _, anomaly, _⟩ := orderings_are_lawful word positive date
  exact ⟨⟨isNegative, isPositive, (numbers _ _ isNegative isPositive).2⟩,
    ⟨below, above, trans below above⟩,
    (blanks .atMost negative padded (by decide) unpadded around).1,
    isNone, anomaly .atLeast (by decide) (.inl isNone)⟩

end Comparison
end Formula
end CellPreview
