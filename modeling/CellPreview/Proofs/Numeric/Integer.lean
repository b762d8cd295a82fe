import CellPreview.Proofs.Numeric.Order
import CellPreview.Proofs.Text.Blank
import CellPreview.Proofs.Text.Span

/-!
# Numerals of integers

An integer is written as digits, with an optional sign before them. Every such
numeral is read as its integer, whether an integer is wanted or a number, and
as a number it is rounded once.
-/

namespace CellPreview
namespace Numeric

/-- Numerals of an integer: digits with an optional sign before them. Zeros in
front of other digits are allowed. -/
inductive IsNumeralOf : Int -> Text -> Prop
  | unsigned {digits : Text} {number : Nat} :
      digits.Denotes number -> IsNumeralOf number digits
  | plus {digits : Text} {number : Nat} :
      digits.Denotes number -> IsNumeralOf number ('+' :: digits)
  | minus {digits : Text} {number : Nat} :
      digits.Denotes number -> IsNumeralOf (-number) ('-' :: digits)

theorem isNumeralOf_ofInt (number : Int) :
    IsNumeralOf number (Text.ofInt number) := by
  cases number with
  | ofNat number => exact .unsigned (Text.denotes_ofNat number)
  | negSucc number => exact .minus (Text.denotes_ofNat (number + 1))

/-- A numeral has no blanks around it. -/
theorem IsNumeralOf.trim_eq
    {number : Int}
    {numeral : Text}
    (isNumeral : IsNumeralOf number numeral) :
    numeral.trim = numeral := by
  cases isNumeral with
  | unsigned denotes =>
      have ends := denotes.endsInInk
      obtain ⟨digit, others, rfl, isDigit⟩ := denotes.exists_cons
      exact Text.trim_eq_self (Text.isBlank_eq_false_of_isDigit isDigit) ends
  | plus denotes | minus denotes =>
      exact Text.trim_eq_self rfl (denotes.endsInInk.append [_])

theorem readDigits?_eq_some_iff
    {text : Text}
    {number : Nat} :
    readDigits? text = some number ↔ text.Denotes number := by
  unfold readDigits?
  constructor
  · intro found
    split at found
    · rename_i areDigits
      rw [Bool.and_eq_true, Bool.not_eq_true', List.isEmpty_eq_false_iff,
        List.all_eq_true] at areDigits
      exact ⟨areDigits.1, areDigits.2, Option.some.inj found⟩
    · cases found
  · rintro ⟨nonempty, areDigits, rfl⟩
    rw [if_pos]
    rw [Bool.and_eq_true, Bool.not_eq_true', List.isEmpty_eq_false_iff,
      List.all_eq_true]
    exact ⟨nonempty, areDigits⟩

/-- No sign is a digit. -/
theorem ne_sign_of_isDigit
    {char : Char}
    (isDigit : char.isDigit) :
    char ≠ '-' ∧ char ≠ '+' := by
  constructor <;> rintro rfl <;> cases isDigit

/-- A numeral is read as the integer that it is one of. -/
theorem IsNumeralOf.readInteger?_eq
    {number : Int}
    {numeral : Text}
    (isNumeral : IsNumeralOf number numeral) :
    readInteger? numeral = some number := by
  cases isNumeral with
  | unsigned denotes =>
      obtain ⟨digit, others, rfl, isDigit⟩ := denotes.exists_cons
      obtain ⟨notMinus, notPlus⟩ := ne_sign_of_isDigit isDigit
      rw [readInteger?.eq_3 _ (by simp [notMinus]) (by simp [notPlus]),
        readDigits?_eq_some_iff.mpr denotes]
      rfl
  | plus denotes | minus denotes =>
      rw [readInteger?, readDigits?_eq_some_iff.mpr denotes]
      rfl

theorem Decimal.readSign_append
    {digits : Text}
    {number : Nat}
    (denotes : digits.Denotes number)
    (rest : Text) :
    readSign (digits ++ rest) = (false, digits ++ rest) := by
  obtain ⟨digit, others, rfl, isDigit⟩ := denotes.exists_cons
  obtain ⟨notMinus, notPlus⟩ := ne_sign_of_isDigit isDigit
  exact readSign.eq_3 _ (by simp [notMinus]) (by simp [notPlus])

/-- A numeral of an integer has no fraction and no exponent. -/
theorem IsNumeralOf.exists_read?_eq
    {number : Int}
    {numeral : Text}
    (isNumeral : IsNumeralOf number numeral) :
    ∃ negative size, number = signed negative size ∧
      Decimal.read? numeral = some ⟨negative, size, 0⟩ := by
  have unsigned {digits : Text} {size : Nat} {negative : Bool}
      (denotes : digits.Denotes size)
      (sign : Decimal.readSign numeral = (negative, digits)) :
      Decimal.read? numeral = some ⟨negative, size, 0⟩ := by
    obtain ⟨taken, dropped⟩ :=
      @Text.span_of_forall Char.isDigit digits [] denotes.areDigits (by simp)
    rw [List.append_nil] at taken dropped
    simp [Decimal.read?, sign, taken, dropped, denotes.nonempty,
      Decimal.readExponent?, Decimal.ofParts, denotes.value]
  cases isNumeral with
  | unsigned denotes =>
      have sign := Decimal.readSign_append denotes []
      rw [List.append_nil] at sign
      exact ⟨false, _, rfl, unsigned denotes sign⟩
  | plus denotes => exact ⟨false, _, rfl, unsigned denotes rfl⟩
  | minus denotes => exact ⟨true, _, rfl, unsigned denotes rfl⟩

/-- Digits with a hyphen behind them are not the start of a numeral. -/
theorem Decimal.read?_eq_none_of_hyphen
    {text digits rest : Text}
    {number : Nat}
    {negative : Bool}
    (denotes : digits.Denotes number)
    (sign : readSign text = (negative, digits ++ '-' :: rest)) :
    read? text = none := by
  obtain ⟨taken, dropped⟩ := @Text.span_of_forall Char.isDigit digits
    ('-' :: rest) denotes.areDigits (by rintro char ⟨⟩; rfl)
  simp [read?, sign, taken, dropped, denotes.nonempty, readExponent?]

/-- An integer of 64 bits is rounded as a quotient by one. -/
theorem Decimal.toBinary64?_integer
    {size : Nat}
    (within : size ≤ 2 ^ 63)
    (negative : Bool) :
    toBinary64? ⟨negative, size, 0⟩ =
      Binary64.ofQuotient? negative size 1 := by
  obtain rfl | positive := Nat.eq_zero_or_pos size
  · simp [toBinary64?, Binary64.zero,
      Binary64.ofQuotient?_natural (Nat.zero_le _)]
  · have short : size < 10 ^ 19 := within.trans_lt (by decide)
    have length := (Text.length_ofNat_le_iff (by decide)).mpr short
    rw [Text.ofNat] at length
    have notAbove : ¬310 < leading ⟨negative, size, 0⟩ := by
      simp only [leading]
      omega
    have notBelow : ¬leading ⟨negative, size, 0⟩ < -330 := by
      simp only [leading]
      omega
    rw [toBinary64?_eq, if_neg positive.ne', if_neg notAbove, if_neg notBelow]
    simp

end Numeric
end CellPreview
