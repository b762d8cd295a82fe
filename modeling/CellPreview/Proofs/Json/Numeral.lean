import CellPreview.Json.Numeral
import CellPreview.Proofs.Numeric.Rounding
import CellPreview.Proofs.Outcome
import CellPreview.Proofs.Text.Span

/-!
# Numerals read back

A numeral that is written from its parts is read as these parts, as long as
what follows does not go on with it. The number that it stands for depends on
its significant digits and on the place of its point only, unless it has too
many digits to be read one by one.
-/

namespace CellPreview
namespace Json
namespace Numeral

/-- One decimal digit or more. -/
structure IsDigits (digits : Text) : Prop where
  nonempty : digits ≠ []
  areDigits : ∀ char ∈ digits, char.isDigit

/-- Numerals whose parts can be written down. -/
structure WellFormed (numeral : Numeral) : Prop where
  whole : IsDigits numeral.whole
  /-- A zero in front of other digits is not allowed. -/
  leads : numeral.whole = ['0'] ∨ ∀ first ∈ numeral.whole.head?, first ≠ '0'
  fraction : ∀ digits ∈ numeral.fraction, IsDigits digits
  exponent : ∀ power ∈ numeral.exponent, IsDigits power.2

/-- How a fraction is written. -/
def fractionText : Option Text -> Text
  | none => []
  | some digits => '.' :: digits

/-- How an exponent is written. -/
def exponentText : Option (Bool × Text) -> Text
  | none => []
  | some (negative, digits) => 'e' :: (if negative then '-' else '+') :: digits

/-- How a numeral is written without its sign. -/
def unsignedText (numeral : Numeral) : Text :=
  numeral.whole ++ (fractionText numeral.fraction ++
    exponentText numeral.exponent)

/-- How a numeral is written. -/
def written (numeral : Numeral) : Text :=
  (if numeral.negative then ['-'] else []) ++ numeral.unsignedText

/-- Texts that do not go on with a numeral in front of them. -/
def EndsNumeral (rest : Text) : Prop :=
  ∀ char ∈ rest.head?,
    char.isDigit = false ∧ char ≠ '.' ∧ char ≠ 'e' ∧ char ≠ 'E'

/-! ## Reading what is written -/

namespace IsDigits

variable {digits rest : Text}

theorem startsWithDigit (isDigits : IsDigits digits) (rest : Text) :
    Json.startsWithDigit (digits ++ rest) := by
  obtain ⟨digit, others, rfl⟩ := List.exists_cons_of_ne_nil isDigits.nonempty
  exact isDigits.areDigits digit (by simp)

theorem readDigits_append
    (isDigits : IsDigits digits)
    (ends : ∀ char ∈ rest.head?, char.isDigit = false)
    (ended : Cause) :
    readDigits ended (digits ++ rest) = .ok (digits, rest) := by
  obtain ⟨taken, dropped⟩ := Text.span_of_forall isDigits.areDigits ends
  have starts := isDigits.startsWithDigit rest
  obtain ⟨digit, others, rfl⟩ := List.exists_cons_of_ne_nil isDigits.nonempty
  rw [List.cons_append] at *
  rw [readDigits.eq_2 _ _ (by simp), if_pos starts, taken, dropped]

theorem readWhole_append
    (isDigits : IsDigits digits)
    (leads : digits = ['0'] ∨ ∀ first ∈ digits.head?, first ≠ '0')
    (ends : ∀ char ∈ rest.head?, char.isDigit = false)
    (ended : Cause) :
    readWhole ended (digits ++ rest) = .ok (digits, rest) := by
  have stops : Json.startsWithDigit rest = false := by
    cases rest with
    | nil => rfl
    | cons char rest => exact ends char rfl
  obtain rfl | leads := leads
  · simp [readWhole, stops]
  · obtain ⟨taken, dropped⟩ := Text.span_of_forall isDigits.areDigits ends
    have starts := isDigits.startsWithDigit rest
    obtain ⟨digit, others, rfl⟩ := List.exists_cons_of_ne_nil isDigits.nonempty
    have notZero : digit ≠ '0' := leads digit rfl
    rw [List.cons_append] at *
    rw [readWhole.eq_3 _ _ (by simp) (by simp [notZero]), if_pos starts, taken,
      dropped]

end IsDigits

theorem readExponent_append
    {exponent : Option (Bool × Text)}
    {rest : Text}
    (areDigits : ∀ power ∈ exponent, IsDigits power.2)
    (ends : EndsNumeral rest)
    (ended : Cause) :
    readExponent ended (exponentText exponent ++ rest) =
      .ok (exponent, rest) := by
  have noDigit : ∀ char ∈ rest.head?, char.isDigit = false :=
    fun char isFirst => (ends char isFirst).1
  cases exponent with
  | none =>
      cases rest with
      | nil => rfl
      | cons char rest =>
          obtain ⟨_, _, notLower, notUpper⟩ := ends char rfl
          simp [exponentText, readExponent, notLower, notUpper]
  | some power =>
      obtain ⟨negative, digits⟩ := power
      have isDigits : IsDigits digits := areDigits _ rfl
      cases negative <;>
        simp [exponentText, readExponent,
          isDigits.readDigits_append noDigit ended]

theorem readFraction_append
    {fraction : Option Text}
    {rest : Text}
    (areDigits : ∀ digits ∈ fraction, IsDigits digits)
    (noDigit : ∀ char ∈ rest.head?, char.isDigit = false)
    (noPoint : ∀ char ∈ rest.head?, char ≠ '.')
    (ended : Cause) :
    readFraction ended (fractionText fraction ++ rest) =
      .ok (fraction, rest) := by
  cases fraction with
  | none =>
      rw [fractionText, List.nil_append, readFraction.eq_2]
      rintro others rfl
      exact noPoint '.' rfl rfl
  | some digits =>
      have isDigits : IsDigits digits := areDigits _ rfl
      simp [fractionText, readFraction,
        isDigits.readDigits_append noDigit ended]

/-- What follows the digits before the point. -/
theorem head?_afterWhole
    {fraction : Option Text}
    {exponent : Option (Bool × Text)}
    {rest : Text}
    (ends : EndsNumeral rest) :
    (∀ char ∈ (exponentText exponent ++ rest).head?,
        char.isDigit = false ∧ char ≠ '.') ∧
      ∀ char ∈ (fractionText fraction ++
        (exponentText exponent ++ rest)).head?, char.isDigit = false := by
  have afterFraction : ∀ char ∈ (exponentText exponent ++ rest).head?,
      char.isDigit = false ∧ char ≠ '.' := by
    cases exponent with
    | none => exact fun char isFirst => ⟨(ends char isFirst).1, (ends char isFirst).2.1⟩
    | some power =>
        rintro char ⟨⟩
        decide
  refine ⟨afterFraction, ?_⟩
  cases fraction with
  | none => exact fun char isFirst => (afterFraction char isFirst).1
  | some digits =>
      rintro char ⟨⟩
      rfl

/-- A numeral is read as the parts that it was written from. -/
theorem WellFormed.read_append
    {numeral : Numeral}
    {rest : Text}
    (wellFormed : numeral.WellFormed)
    (ends : EndsNumeral rest)
    (ended : Cause) :
    read ended (numeral.written ++ rest) = .ok (numeral, rest) := by
  obtain ⟨negative, whole, fraction, exponent⟩ := numeral
  obtain ⟨wholeDigits, leads, fractionDigits, exponentDigits⟩ := wellFormed
  obtain ⟨afterFraction, afterWhole⟩ :=
    @head?_afterWhole fraction exponent rest ends
  have wholeRead := wholeDigits.readWhole_append leads afterWhole ended
  have fractionRead := readFraction_append fractionDigits
    (fun char isFirst => (afterFraction char isFirst).1)
    (fun char isFirst => (afterFraction char isFirst).2) ended
  have exponentRead := readExponent_append exponentDigits ends ended
  cases negative with
  | true => simp [read, written, unsignedText, wholeRead, fractionRead,
      exponentRead]
  | false =>
      -- The sign is looked for first, so the first digit has to be known.
      have isText : written ⟨false, whole, fraction, exponent⟩ ++ rest =
          whole ++ (fractionText fraction ++ (exponentText exponent ++ rest)) := by
        simp [written, unsignedText]
      have starts := wholeDigits.startsWithDigit
        (fractionText fraction ++ (exponentText exponent ++ rest))
      rw [isText]
      generalize whole ++ (fractionText fraction ++
        (exponentText exponent ++ rest)) = text at *
      cases text with
      | nil => cases starts
      | cons char others =>
          have notMinus : char ≠ '-' := by
            rintro rfl
            cases starts
          simp [read, notMinus, wholeRead, fractionRead, exponentRead]

/-! ## What is written -/

/-- Characters of numerals. -/
def isNumeralChar (char : Char) : Bool :=
  char.isDigit || char == '-' || char == '+' || char == '.' || char == 'e'

theorem IsDigits.isNumeralChar
    {digits : Text}
    (isDigits : IsDigits digits) :
    ∀ char ∈ digits, Numeral.isNumeralChar char := by
  intro char present
  simp [Numeral.isNumeralChar, isDigits.areDigits char present]

theorem WellFormed.isNumeralChar
    {numeral : Numeral}
    (wellFormed : numeral.WellFormed) :
    ∀ char ∈ numeral.written, Numeral.isNumeralChar char := by
  obtain ⟨negative, whole, fraction, exponent⟩ := numeral
  obtain ⟨wholeDigits, _, fractionDigits, exponentDigits⟩ := wellFormed
  have signChars : ∀ char ∈ (if negative then ['-'] else [] : Text),
      Numeral.isNumeralChar char := by
    cases negative <;> simp [Numeral.isNumeralChar]
  have fractionChars : ∀ char ∈ fractionText fraction,
      Numeral.isNumeralChar char := by
    cases fraction with
    | none => simp [fractionText]
    | some digits =>
        exact List.forall_mem_cons.mpr
          ⟨rfl, (fractionDigits digits rfl).isNumeralChar⟩
  have exponentChars : ∀ char ∈ exponentText exponent,
      Numeral.isNumeralChar char := by
    cases exponent with
    | none => simp [exponentText]
    | some power =>
        refine List.forall_mem_cons.mpr ⟨rfl, List.forall_mem_cons.mpr
          ⟨?_, (exponentDigits power rfl).isNumeralChar⟩⟩
        cases power.1 <;> rfl
  intro char present
  simp only [written, unsignedText, List.mem_append] at present
  obtain present | present | present | present := present
  · exact signChars char present
  · exact wholeDigits.isNumeralChar char present
  · exact fractionChars char present
  · exact exponentChars char present

/-- A numeral starts with its sign or a digit. -/
theorem WellFormed.exists_cons
    {numeral : Numeral}
    (wellFormed : numeral.WellFormed) :
    ∃ first others, numeral.written = first :: others ∧
      (first = '-' ∨ first.isDigit) := by
  obtain ⟨digit, others, isWhole⟩ :=
    List.exists_cons_of_ne_nil wellFormed.whole.nonempty
  have isDigit : digit.isDigit :=
    wellFormed.whole.areDigits digit (by simp [isWhole])
  rw [written, unsignedText, isWhole]
  cases numeral.negative with
  | true => exact ⟨'-', _, rfl, .inl rfl⟩
  | false => exact ⟨digit, _, rfl, .inr isDigit⟩

/-! ## What a numeral stands for -/

/-- The digits of a numeral are those of a text, zeros around them left out,
and its point stands at a power of ten below them. All its digits are read one
by one. -/
def Presents (numeral : Numeral) (digits : Text) (exponent : Int) : Prop :=
  ∃ before zeros,
    numeral.whole ++ numeral.fraction.getD [] =
      List.replicate before '0' ++ digits ++ List.replicate zeros '0' ∧
    numeral.power = exponent + (numeral.fraction.getD []).length - zeros ∧
    digits.length + zeros ≤ exactDigits

/-- Few digits are all read one by one. -/
theorem decimal_eq
    {numeral : Numeral}
    {fraction : Text}
    (isFraction : fraction =
      ((numeral.fraction.getD []).reverse.dropWhile (· == '0')).reverse)
    (few : ((numeral.whole ++ fraction).dropWhile (· == '0')).length ≤
      exactDigits) :
    numeral.decimal =
      ⟨numeral.negative, Nat.ofDigitChars 10 (numeral.whole ++ fraction) 0,
        numeral.power - fraction.length⟩ := by
  rw [decimal, ← isFraction, condensed, if_pos few,
    Text.ofDigitChars_dropWhile_zero]
  congr 1
  omega

theorem length_dropWhile_zero_le
    {digits first second : Text}
    {before zeros : Nat}
    (same : first ++ second =
      List.replicate before '0' ++ digits ++ List.replicate zeros '0') :
    (first.dropWhile (· == '0')).length ≤ digits.length + zeros := by
  have inner : (List.replicate before '0' ++ digits ++
      List.replicate zeros '0').dropWhile (· == '0') =
      (digits ++ List.replicate zeros '0').dropWhile (· == '0') := by
    rw [List.append_assoc, List.dropWhile_append_of_pos (by simp)]
  have shorter := (List.dropWhile_suffix (· == '0') (l := digits ++
    List.replicate zeros '0')).length_le
  rw [← inner, ← same, List.dropWhile_append] at shorter
  split at shorter
  next isEmpty => simp [List.isEmpty_iff.mp isEmpty]
  next => simp at shorter; omega

/-- The number of a numeral depends on its digits and its point only. -/
theorem Presents.toBinary64?_decimal
    {numeral : Numeral}
    {digits : Text}
    {exponent : Int}
    (presents : numeral.Presents digits exponent) :
    numeral.decimal.toBinary64? =
      Numeric.Decimal.toBinary64? ⟨numeral.negative,
        Nat.ofDigitChars 10 digits 0, exponent⟩ := by
  obtain ⟨before, zeros, same, power, few⟩ := presents
  obtain ⟨dropped, isDropped⟩ := Text.exists_zeros (numeral.fraction.getD [])
  generalize isFraction : ((numeral.fraction.getD []).reverse.dropWhile
    (· == '0')).reverse = fraction at isDropped
  rw [isDropped, ← List.append_assoc] at same
  have short : ((numeral.whole ++ fraction).dropWhile (· == '0')).length ≤
      exactDigits :=
    (length_dropWhile_zero_le same).trans few
  rw [decimal_eq isFraction.symm short]
  have value : Nat.ofDigitChars 10 (numeral.whole ++ fraction) 0 * 10 ^ dropped =
      Nat.ofDigitChars 10 digits 0 * 10 ^ zeros := by
    rw [← Text.ofDigitChars_append_zeros, same,
      Text.ofDigitChars_append_zeros, Nat.ofDigitChars_append,
      Nat.ofDigitChars_replicate_zero, Nat.mul_zero]
  have length := congrArg List.length isDropped
  rw [List.length_append, List.length_replicate] at length
  rw [← Numeric.Decimal.toBinary64?_shift _ _ _ dropped, value,
    ← Numeric.Decimal.toBinary64?_shift _ _ exponent zeros]
  congr 2
  omega

end Numeral
end Json
end CellPreview
