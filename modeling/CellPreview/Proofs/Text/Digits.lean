import CellPreview.Text.Basic
import Mathlib.Data.List.TakeWhile
import Mathlib.Tactic.Ring

/-!
# Decimal digits

A numeral of a natural number starts with a zero only if the number is zero.
Zeros in front of digits do not count, and each zero behind them multiplies by
ten.
-/

namespace CellPreview
namespace Text

theorem isDigit_of_mem_ofNat
    {number : Nat}
    {char : Char}
    (present : char ∈ ofNat number) :
    char.isDigit :=
  Nat.isDigit_of_mem_toDigits (by decide) (by decide) present

theorem ofNat_ne_nil (number : Nat) : ofNat number ≠ [] :=
  Nat.toDigits_ne_nil

theorem ofDigitChars_ofNat (number : Nat) :
    Nat.ofDigitChars 10 (ofNat number) 0 = number :=
  Nat.ofDigitChars_ten_toDigits

/-- A numeral is longer by a digit for each power of ten. -/
theorem length_ofNat_le_iff
    {number length : Nat}
    (positive : 0 < length) :
    (ofNat number).length ≤ length ↔ number < 10 ^ length :=
  Nat.length_toDigits_le_iff (by decide) positive

/-- No numeral of a positive number starts with a zero. -/
theorem ne_zero_of_mem_head?_ofNat
    {number : Nat}
    (positive : 0 < number) :
    ∀ char ∈ (ofNat number).head?, char ≠ '0' := by
  induction number using Nat.strong_induction_on with
  | _ number inductionHypothesis =>
      intro char isFirst
      rw [ofNat, Nat.toDigits_eq_if (by decide)] at isFirst
      split at isFirst
      next small =>
        have notZero : ∀ digit < 10, 0 < digit -> digit.digitChar ≠ '0' := by
          decide
        obtain rfl : number.digitChar = char := by simpa using isFirst
        exact notZero number small positive
      next large =>
        have quotientPositive : 0 < number / 10 := by omega
        refine inductionHypothesis (number / 10) (by omega) quotientPositive
          char ?_
        simpa [ofNat, List.head?_append, List.head?_eq_some_head,
          Nat.toDigits_ne_nil] using isFirst

/-- A power of ten appends zeros. -/
theorem ofNat_mul_pow
    {number : Nat}
    (positive : 0 < number)
    (zeros : Nat) :
    ofNat (number * 10 ^ zeros) = ofNat number ++ List.replicate zeros '0' := by
  induction zeros with
  | zero => simp
  | succ zeros inductionHypothesis =>
      have powerPositive : 0 < number * 10 ^ zeros :=
        Nat.mul_pos positive (Nat.pow_pos (by decide))
      have appended := Nat.toDigits_append_toDigits
        (b := 10) (d := 0) (by decide) powerPositive (by decide)
      calc ofNat (number * 10 ^ (zeros + 1))
        _ = ofNat (10 * (number * 10 ^ zeros) + 0) := by
            congr 1
            ring
        _ = ofNat (number * 10 ^ zeros) ++ ['0'] := appended.symm
        _ = ofNat number ++ List.replicate (zeros + 1) '0' := by
            rw [inductionHypothesis, List.append_assoc, ← List.replicate_succ']

/-- Zeros in front of digits do not count. -/
theorem ofDigitChars_dropWhile_zero (digits : Text) :
    Nat.ofDigitChars 10 (digits.dropWhile (· == '0')) 0 =
      Nat.ofDigitChars 10 digits 0 := by
  induction digits with
  | nil => rfl
  | cons digit others inductionHypothesis =>
      by_cases isZero : digit = '0'
      · subst isZero
        simpa [Nat.ofDigitChars_cons] using inductionHypothesis
      · rw [List.dropWhile_cons_of_neg (by simpa using isZero)]

/-- Each zero behind digits multiplies by ten. -/
theorem ofDigitChars_append_zeros (digits : Text) (zeros : Nat) :
    Nat.ofDigitChars 10 (digits ++ List.replicate zeros '0') 0 =
      Nat.ofDigitChars 10 digits 0 * 10 ^ zeros := by
  rw [Nat.ofDigitChars_append, Nat.ofDigitChars_replicate_zero, Nat.mul_comm]

/-- Digits behind a number keep it below the next number at their place. -/
theorem ofDigitChars_lt
    {digits : Text}
    (areDigits : ∀ char ∈ digits, char.isDigit)
    (before : Nat) :
    Nat.ofDigitChars 10 digits before < (before + 1) * 10 ^ digits.length := by
  induction digits generalizing before with
  | nil => simp
  | cons digit others inductionHypothesis =>
      have isDigit : digit.isDigit := areDigits digit List.mem_cons_self
      have value : digit.toNat - '0'.toNat < 10 := by
        simp only [Char.isDigit, ge_iff_le, Bool.and_eq_true,
          decide_eq_true_eq, UInt32.le_iff_toNat_le] at isDigit
        have zero : '0'.toNat = 48 := rfl
        have nine : '9'.val.toNat = 57 := rfl
        have code : digit.toNat = digit.val.toNat := rfl
        omega
      rw [Nat.ofDigitChars_cons]
      calc Nat.ofDigitChars 10 others (10 * before + (digit.toNat - '0'.toNat))
        _ < (10 * before + (digit.toNat - '0'.toNat) + 1) * 10 ^ others.length :=
            inductionHypothesis (fun char present =>
              areDigits char (List.mem_cons_of_mem _ present)) _
        _ ≤ (10 * (before + 1)) * 10 ^ others.length :=
            Nat.mul_le_mul_right _ (by omega)
        _ = (before + 1) * 10 ^ (digit :: others).length := by
            rw [List.length_cons]
            ring

/-- Digits are those left without the zeros at the end, and these zeros. -/
theorem exists_zeros (digits : Text) :
    ∃ zeros, digits = (digits.reverse.dropWhile (· == '0')).reverse ++
      List.replicate zeros '0' := by
  refine ⟨(digits.reverse.takeWhile (· == '0')).length, ?_⟩
  have areZeros : digits.reverse.takeWhile (· == '0') =
      List.replicate (digits.reverse.takeWhile (· == '0')).length '0' := by
    refine List.eq_replicate_of_mem fun char present => ?_
    simpa using List.mem_takeWhile_imp present
  rw [← List.reverse_replicate, ← areZeros, ← List.reverse_append,
    List.takeWhile_append_dropWhile, List.reverse_reverse]

/-- One digit or more, and the natural number that they stand for. -/
structure Denotes (digits : Text) (number : Nat) : Prop where
  nonempty : digits ≠ []
  areDigits : ∀ char ∈ digits, char.isDigit
  value : Nat.ofDigitChars 10 digits 0 = number

instance (digits : Text) (number : Nat) : Decidable (Denotes digits number) :=
  decidable_of_iff
    ((!digits.isEmpty && digits.all Char.isDigit &&
      Nat.ofDigitChars 10 digits 0 == number) = true) <| by
    simp only [Bool.and_eq_true, Bool.not_eq_true', List.isEmpty_eq_false_iff,
      List.all_eq_true, beq_iff_eq]
    exact ⟨fun ⟨⟨nonempty, areDigits⟩, value⟩ => ⟨nonempty, areDigits, value⟩,
      fun ⟨nonempty, areDigits, value⟩ => ⟨⟨nonempty, areDigits⟩, value⟩⟩

theorem denotes_ofNat (number : Nat) : Denotes (ofNat number) number :=
  ⟨ofNat_ne_nil number, fun _ => isDigit_of_mem_ofNat,
    ofDigitChars_ofNat number⟩

theorem Denotes.notMem
    {digits : Text}
    {number : Nat}
    (denotes : Denotes digits number)
    {char : Char}
    (notDigit : char.isDigit = false) :
    char ∉ digits := by
  intro present
  rw [denotes.areDigits char present] at notDigit
  cases notDigit

/-- What is denoted is denoted by a first digit and others. -/
theorem Denotes.exists_cons
    {digits : Text}
    {number : Nat}
    (denotes : Denotes digits number) :
    ∃ first others, digits = first :: others ∧ first.isDigit := by
  obtain ⟨first, others, rfl⟩ := List.exists_cons_of_ne_nil denotes.nonempty
  exact ⟨first, others, rfl, denotes.areDigits first List.mem_cons_self⟩

end Text
end CellPreview
