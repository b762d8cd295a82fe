import CellPreview.Proofs.Json.Numeral
import CellPreview.Proofs.Numeric.Shortest

/-!
# Numbers read back

The numeral of a number is read as the same number and of the same kind: an
integer as an integer, provided that it fits 64 bits, and a real number as a
real number, since its numeral always has a point or an exponent.
-/

namespace CellPreview
namespace Json

namespace Numeral

/-- The number that a numeral stands for, whatever follows it. -/
inductive Denotes (numeral : Numeral) : Number -> Prop
  | integer {number : Int} :
      numeral.integer? = some number -> Denotes numeral (.integer number)
  | real {number : Numeric.Binary64} :
      numeral.integer? = none ->
      (∀ rest, numeral.real rest = .ok number) ->
      Denotes numeral (.real number)

theorem Denotes.number_append
    {numeral : Numeral}
    {result : Number}
    {rest : Text}
    (denotes : numeral.Denotes result)
    (wellFormed : numeral.WellFormed)
    (ends : EndsNumeral rest) :
    number (numeral.written ++ rest) = .ok (result, rest) := by
  rw [number, wellFormed.read_append ends]
  cases denotes with
  | integer isInteger => simp [isInteger]
  | real noInteger isReal => simp [noInteger, isReal]

theorem le_ofDigitChars (digits : Text) (size : Nat) :
    size ≤ Nat.ofDigitChars 10 digits size := by
  rw [Nat.ofDigitChars_eq_ofDigitChars_zero]
  have scaled : 1 * size ≤ 10 ^ digits.length * size :=
    Nat.mul_le_mul_right _ (Nat.pow_pos (by decide))
  omega

/-- A small exponent never goes past the limit. -/
theorem pastLimit?_eq_none
    {digits : Text}
    {size : Nat}
    (small : Nat.ofDigitChars 10 digits size ≤ exponentLimit) :
    pastLimit? size digits = none := by
  induction digits generalizing size with
  | nil => rfl
  | cons digit others inductionHypothesis =>
      rw [Nat.ofDigitChars_cons] at small
      have within := (le_ofDigitChars others _).trans small
      rw [pastLimit?, if_neg (Nat.not_lt.mpr within)]
      exact inductionHypothesis small

/-- A numeral whose exponent is small stands for what its decimal is rounded
to. -/
theorem real_eq_ok
    {numeral : Numeral}
    {number : Numeric.Binary64}
    (rounded : numeral.decimal.toBinary64? = some number)
    (small : ∀ power ∈ numeral.exponent,
      Nat.ofDigitChars 10 power.2 0 ≤ exponentLimit)
    (rest : Text) :
    numeral.real rest = .ok number := by
  rw [real, rounded]
  cases isExponent : numeral.exponent with
  | none => rfl
  | some power => simp [pastLimit?_eq_none (small power isExponent)]

theorem isDigits_ofNat (number : Nat) : IsDigits (Text.ofNat number) :=
  ⟨Text.ofNat_ne_nil number, fun _ => Text.isDigit_of_mem_ofNat⟩

theorem IsDigits.append
    {digits : Text}
    (isDigits : IsDigits digits)
    {others : Text}
    (areDigits : ∀ char ∈ others, char.isDigit) :
    IsDigits (digits ++ others) :=
  ⟨by simp [isDigits.nonempty],
    List.forall_mem_append.mpr ⟨isDigits.areDigits, areDigits⟩⟩

end Numeral

namespace Number

open Numeral

/-- Whether a number can be the result of reading: an integer has to fit 64
bits, signed or unsigned. -/
def fits : Number -> Bool
  | .integer number =>
      -0x8000000000000000 ≤ number && number < 0x10000000000000000
  | .real _ => true

/-! ## Integers -/

/-- An integer of 64 bits is read as itself. -/
theorem exists_numeral_integer
    {number : Int}
    (inRange : fits (.integer number)) :
    ∃ numeral : Numeral, numeral.WellFormed ∧
      numeral.written = Text.ofInt number ∧
      numeral.Denotes (.integer number) := by
  simp only [fits, Bool.and_eq_true, decide_eq_true_eq] at inRange
  cases number with
  | ofNat number =>
      refine ⟨⟨false, Text.ofNat number, none, none⟩,
        ⟨isDigits_ofNat number, ?_, by simp, by simp⟩, ?_, .integer ?_⟩
      · obtain rfl | positive := Nat.eq_zero_or_pos number
        · exact .inl rfl
        · exact .inr (Text.ne_zero_of_mem_head?_ofNat positive)
      · simp [written, unsignedText, fractionText, exponentText, Text.ofInt]
      · have inUnsigned : Numeric.fitsUInt64 number := by
          simp only [Int.ofNat_eq_natCast] at inRange
          simp only [Numeric.fitsUInt64, decide_eq_true_eq]
          omega
        simp [integer?, Text.ofDigitChars_ofNat, inUnsigned]
  | negSucc number =>
      refine ⟨⟨true, Text.ofNat (number + 1), none, none⟩,
        ⟨isDigits_ofNat _, ?_, by simp, by simp⟩, ?_, .integer ?_⟩
      · exact .inr (Text.ne_zero_of_mem_head?_ofNat (Nat.succ_pos number))
      · simp [written, unsignedText, fractionText, exponentText, Text.ofInt]
      · have inSigned : number + 1 ≤ 0x8000000000000000 := by omega
        simp only [integer?, Text.ofDigitChars_ofNat]
        simp [inSigned, Int.negSucc_eq]

/-! ## Real numbers -/

/-- Digits that are written for a number other than zero. -/
structure Significant (digits : Text) : Prop where
  isDigits : IsDigits digits
  leads : ∀ first ∈ digits.head?, first ≠ '0'
  few : digits.length < exactDigits

/-- The digits in front of a point and those after it, when the point stands at
a place among or beside given digits, and zeros fill what lies between. -/
structure SplitsAt
    (digits : Text)
    (point : Int)
    (whole fraction : Text) : Prop where
  wholeDigits : IsDigits whole
  leads : whole = ['0'] ∨ ∀ first ∈ whole.head?, first ≠ '0'
  fractionDigits : IsDigits fraction
  written : whole ++ '.' :: fraction = positional digits point
  filled : ∃ before zeros,
    whole ++ fraction =
      List.replicate before '0' ++ digits ++ List.replicate zeros '0' ∧
    point + fraction.length = digits.length + zeros ∧
    digits.length + zeros ≤ exactDigits

theorem isDigits_zero : IsDigits ['0'] :=
  ⟨by simp, by simp⟩

/-- A point in front of all digits. -/
theorem Significant.splitsAt_before
    {digits : Text}
    (significant : Significant digits)
    (places : Nat) :
    SplitsAt digits (-places) ['0'] (List.replicate places '0' ++ digits) where
  wholeDigits := isDigits_zero
  leads := .inl rfl
  fractionDigits := by
    obtain ⟨nonempty, areDigits⟩ := significant.isDigits
    refine ⟨by simp [nonempty], List.forall_mem_append.mpr ⟨?_, areDigits⟩⟩
    intro char present
    rw [List.eq_of_mem_replicate present]
    rfl
  written := by cases places <;> rfl
  filled := by
    have few := significant.few
    refine ⟨places + 1, 0, by simp [List.replicate_succ], ?_, by omega⟩
    rw [List.length_append, List.length_replicate]
    omega

/-- A point between two digits. -/
theorem Significant.splitsAt_inside
    {digits : Text}
    (significant : Significant digits)
    {places : Nat}
    (positive : 0 < places)
    (inside : places < digits.length) :
    SplitsAt digits places (digits.take places) (digits.drop places) where
  wholeDigits := by
    obtain ⟨nonempty, areDigits⟩ := significant.isDigits
    exact ⟨by simp [nonempty, positive.ne'],
      fun char present => areDigits char (List.mem_of_mem_take present)⟩
  leads := by
    refine .inr ?_
    simpa [List.head?_take, positive.ne'] using significant.leads
  fractionDigits := by
    obtain ⟨_, areDigits⟩ := significant.isDigits
    exact ⟨by simp [inside],
      fun char present => areDigits char (List.mem_of_mem_drop present)⟩
  written := by simp [positional, positive.ne', inside]
  filled := by
    have few := significant.few
    refine ⟨0, 0, by simp, ?_, by omega⟩
    rw [List.length_drop]
    omega

/-- A point after all digits. -/
theorem Significant.splitsAt_after
    {digits : Text}
    (significant : Significant digits)
    {places : Nat}
    (beyond : digits.length ≤ places)
    (bound : places ≤ 16) :
    SplitsAt digits places
      (digits ++ List.replicate (places - digits.length) '0') ['0'] where
  wholeDigits := by
    refine significant.isDigits.append fun char present => ?_
    rw [List.eq_of_mem_replicate present]
    rfl
  leads := by
    obtain ⟨digit, others, rfl⟩ :=
      List.exists_cons_of_ne_nil significant.isDigits.nonempty
    exact .inr (by simpa using significant.leads)
  fractionDigits := isDigits_zero
  written := by
    have positive : 0 < places :=
      (List.length_pos_iff.mpr significant.isDigits.nonempty).trans_le beyond
    simp [positional, positive.ne', beyond]
  filled := by
    refine ⟨0, places - digits.length + 1, by simp [List.replicate_succ'], ?_, ?_⟩
    · rw [List.length_singleton]
      omega
    · rw [exactDigits]
      omega

theorem Significant.exists_splitsAt
    {digits : Text}
    (significant : Significant digits)
    {point : Int}
    (bound : point ≤ 16) :
    ∃ whole fraction, SplitsAt digits point whole fraction := by
  obtain ⟨places, rfl | rfl⟩ := Int.eq_nat_or_neg point
  · obtain isZero | positive := Nat.eq_zero_or_pos places
    · rw [isZero]
      exact ⟨_, _, significant.splitsAt_before 0⟩
    · obtain inside | beyond := Nat.lt_or_ge places digits.length
      · exact ⟨_, _, significant.splitsAt_inside positive inside⟩
      · exact ⟨_, _, significant.splitsAt_after beyond (Int.ofNat_le.mp bound)⟩
  · exact ⟨_, _, significant.splitsAt_before places⟩

/-- The positional numeral of digits. -/
theorem Significant.exists_positional
    {digits : Text}
    (significant : Significant digits)
    {point : Int}
    (bound : point ≤ 16)
    (negative : Bool) :
    ∃ whole fraction,
      WellFormed ⟨negative, whole, some fraction, none⟩ ∧
      unsignedText ⟨negative, whole, some fraction, none⟩ =
        positional digits point ∧
      Presents ⟨negative, whole, some fraction, none⟩ digits
        (point - digits.length) := by
  obtain ⟨whole, fraction, splits⟩ := significant.exists_splitsAt bound
  obtain ⟨before, zeros, same, place, few⟩ := splits.filled
  refine ⟨whole, fraction, ⟨splits.wholeDigits, splits.leads, ?_, by simp⟩, ?_,
    before, zeros, same, ?_, few⟩
  · rintro _ ⟨⟩
    exact splits.fractionDigits
  · simp [unsignedText, fractionText, exponentText, ← splits.written]
  · simp only [power, Option.getD_some]
    omega

/-- The numeral of digits with an exponent. -/
theorem Significant.exists_scientific
    {digits : Text}
    (significant : Significant digits)
    (exponent : Int)
    (negative : Bool) :
    ∃ whole fraction,
      let numeral : Numeral := ⟨negative, whole, fraction,
        some (exponent < 0, Text.ofNat exponent.natAbs)⟩
      numeral.WellFormed ∧
      numeral.unsignedText = scientific digits exponent ∧
      numeral.Presents digits (exponent + 1 - digits.length) := by
  obtain ⟨isDigits, leads, few⟩ := significant
  have powerText : exponentText
      (some (exponent < 0, Text.ofNat exponent.natAbs)) =
      'e' :: (if exponent < 0 then Text.ofInt exponent
        else '+' :: Text.ofInt exponent) := by
    cases exponent with
    | ofNat size =>
        have notBelow : ¬((size : Int) < 0) := by omega
        simp [exponentText, Text.ofInt, notBelow]
    | negSucc size => simp [exponentText, Text.ofInt, Int.negSucc_lt_zero]
  have isPower (whole : Text) (fraction : Option Text) :
      power ⟨negative, whole, fraction,
        some (exponent < 0, Text.ofNat exponent.natAbs)⟩ = exponent := by
    simp only [power, Text.ofDigitChars_ofNat, decide_eq_true_eq]
    split <;> omega
  have powerDigits : ∀ power ∈ some (decide (exponent < 0),
      Text.ofNat exponent.natAbs), IsDigits power.2 := by
    rintro _ ⟨⟩
    exact isDigits_ofNat _
  obtain ⟨first, others, rfl⟩ := List.exists_cons_of_ne_nil isDigits.nonempty
  have firstDigits : IsDigits [first] :=
    ⟨by simp, by simpa using isDigits.areDigits first (by simp)⟩
  have firstLeads : ∀ digit ∈ [first].head?, digit ≠ '0' := by simpa using leads
  cases others with
  | nil =>
      refine ⟨[first], none, ⟨firstDigits, .inr firstLeads, by simp,
        powerDigits⟩, ?_, 0, 0, ?_, ?_, ?_⟩
      · simp only [unsignedText, powerText, scientific]
        rfl
      · simp
      · rw [isPower]
        simp
      · omega
  | cons second others =>
      refine ⟨[first], some (second :: others), ⟨firstDigits, .inr firstLeads,
        ?_, powerDigits⟩, ?_, 0, 0, ?_, ?_, ?_⟩
      · rintro _ ⟨⟩
        exact ⟨by simp, fun char present =>
          isDigits.areDigits char (List.mem_cons_of_mem _ present)⟩
      · simp only [unsignedText, powerText, scientific]
        simp [fractionText]
      · simp
      · rw [isPower]
        simp
      · omega

/-- The digits kept of a decimal other than zero, and those left out. -/
theorem exists_trimmedDigits
    {decimal : Numeric.Decimal}
    (positive : 0 < decimal.digits) :
    ∃ zeros, Text.ofNat decimal.digits =
        (trimmedDigits decimal).1 ++ List.replicate zeros '0' ∧
      (trimmedDigits decimal).2 = decimal.exponent + zeros ∧
      IsDigits (trimmedDigits decimal).1 ∧
      ∀ first ∈ (trimmedDigits decimal).1.head?, first ≠ '0' := by
  obtain ⟨zeros, split⟩ := Text.exists_zeros (Text.ofNat decimal.digits)
  have isTrimmed : trimmedDigits decimal =
      (((Text.ofNat decimal.digits).reverse.dropWhile (· == '0')).reverse,
        decimal.exponent + zeros) := by
    have length := congrArg List.length split
    rw [List.length_append, List.length_replicate] at length
    rw [trimmedDigits]
    congr 2
    omega
  have leads := Text.ne_zero_of_mem_head?_ofNat positive
  have isDigits := isDigits_ofNat decimal.digits
  rw [isTrimmed]
  generalize ((Text.ofNat decimal.digits).reverse.dropWhile
    (· == '0')).reverse = kept at split
  rw [split] at leads isDigits
  have nonempty : kept ≠ [] := by
    rintro rfl
    cases zeros with
    | zero => exact isDigits.nonempty rfl
    | succ zeros => exact leads '0' rfl rfl
  obtain ⟨digit, others, rfl⟩ := List.exists_cons_of_ne_nil nonempty
  exact ⟨zeros, split, rfl, ⟨nonempty, fun char present =>
    isDigits.areDigits char (List.mem_append_left _ present)⟩, leads⟩

theorem length_trimmedDigits_le
    {decimal : Numeric.Decimal}
    {significant zeros length : Nat}
    (same : decimal.digits = significant * 10 ^ zeros)
    (positive : 0 < significant)
    (lengthPositive : 0 < length)
    (small : significant < 10 ^ length) :
    (trimmedDigits decimal).1.length ≤ length := by
  have short := (Text.length_ofNat_le_iff lengthPositive).mpr small
  have shorter := (List.dropWhile_suffix (· == '0')
    (l := (Text.ofNat significant).reverse)).length_le
  rw [trimmedDigits, same, Text.ofNat_mul_pow positive]
  rw [List.length_reverse, List.reverse_append, List.reverse_replicate,
    List.dropWhile_append_of_pos (by simp)]
  rw [List.length_reverse] at shorter
  exact shorter.trans short

/-- The digits that are kept are rounded to the same number. -/
theorem toBinary64?_trimmedDigits
    {decimal : Numeric.Decimal}
    (positive : 0 < decimal.digits) :
    Numeric.Decimal.toBinary64? ⟨decimal.negative,
      Nat.ofDigitChars 10 (trimmedDigits decimal).1 0,
      (trimmedDigits decimal).2⟩ = decimal.toBinary64? := by
  obtain ⟨zeros, split, exponent, _, _⟩ := exists_trimmedDigits positive
  have value : Nat.ofDigitChars 10 (trimmedDigits decimal).1 0 * 10 ^ zeros =
      decimal.digits := by
    rw [← Text.ofDigitChars_append_zeros, ← split, Text.ofDigitChars_ofNat]
  rw [← Numeric.Decimal.toBinary64?_shift _ _ _ zeros, value, exponent,
    Int.add_sub_cancel]

theorem leading_eq_trimmedDigits
    {decimal : Numeric.Decimal}
    (positive : 0 < decimal.digits) :
    decimal.leading =
      (trimmedDigits decimal).2 + (trimmedDigits decimal).1.length := by
  obtain ⟨zeros, split, exponent, _, _⟩ := exists_trimmedDigits positive
  have length := congrArg List.length split
  rw [List.length_append, List.length_replicate, Text.ofNat] at length
  rw [Numeric.Decimal.leading, exponent]
  omega

/-- The digits that are kept of a shortest decimal other than zero. -/
theorem significant_trimmedDigits_shortest
    {number : Numeric.Binary64}
    (positive : 0 < number.shortest.digits) :
    Significant (trimmedDigits number.shortest).1 := by
  obtain ⟨_, _, _, isDigits, leads⟩ := exists_trimmedDigits positive
  obtain ⟨significant, zeros, same, small⟩ := number.exists_significant_shortest
  have significantPositive : 0 < significant :=
    Nat.pos_of_mul_pos_right (same ▸ positive)
  have few := length_trimmedDigits_le same significantPositive (by decide) small
  exact ⟨isDigits, leads, Nat.lt_succ_of_le few⟩

/-- Zero is read as itself, with its sign. -/
theorem exists_numeral_zero
    {number : Numeric.Binary64}
    (isZero : number.magnitude = 0) :
    ∃ numeral : Numeral, numeral.WellFormed ∧
      numeral.written = realText number ∧
      numeral.Denotes (.real number) := by
  refine ⟨⟨number.negative, ['0'], some ['0'], none⟩,
    ⟨isDigits_zero, .inl rfl, ?_, by simp⟩, ?_,
    .real rfl (real_eq_ok ?_ (by simp))⟩
  · rintro _ ⟨⟩
    exact isDigits_zero
  · simp [written, unsignedText, fractionText, exponentText, realText, isZero]
    cases number.negative <;> rfl
  · obtain ⟨negative, magnitude, finite⟩ := number
    obtain rfl : magnitude = 0 := isZero
    rfl

theorem realText_of_ne_zero
    {number : Numeric.Binary64}
    {digits : Text}
    {exponent : Int}
    (nonzero : number.magnitude ≠ 0)
    (isTrimmed : trimmedDigits number.shortest = (digits, exponent)) :
    realText number =
      (if number.negative then ['-'] else []) ++
        (if -5 < exponent + digits.length && exponent + digits.length ≤ 16 then
          positional digits (exponent + digits.length)
        else
          scientific digits (exponent + digits.length - 1)) := by
  simp only [realText, isTrimmed, if_neg nonzero]
  cases number.negative <;> rfl

/-- A real number is read as itself. -/
theorem exists_numeral_real (number : Numeric.Binary64) :
    ∃ numeral : Numeral, numeral.WellFormed ∧
      numeral.written = realText number ∧
      numeral.Denotes (.real number) := by
  by_cases isZero : number.magnitude = 0
  · exact exists_numeral_zero isZero
  obtain ⟨nonzero, low, high⟩ := Numeric.Decimal.leading_of_toBinary64?
    number.toBinary64?_shortest isZero
  have positive := Nat.pos_of_ne_zero nonzero
  have rounded := toBinary64?_trimmedDigits positive
  have isSignificant := significant_trimmedDigits_shortest positive
  rw [number.toBinary64?_shortest, number.negative_shortest] at rounded
  rw [leading_eq_trimmedDigits positive] at low high
  generalize isTrimmed : trimmedDigits number.shortest = trimmed at *
  obtain ⟨digits, exponent⟩ := trimmed
  dsimp only at *
  -- Both notations present the same digits at the same point, so that `rounded`
  -- settles either.
  rw [realText_of_ne_zero isZero isTrimmed]
  by_cases inRange : -5 < exponent + digits.length &&
      exponent + digits.length ≤ 16
  · have bound : exponent + digits.length ≤ 16 := by
      simpa using (Bool.and_eq_true_iff.mp inRange).2
    obtain ⟨whole, fraction, wellFormed, isText, presents⟩ :=
      isSignificant.exists_positional bound number.negative
    rw [Int.add_sub_cancel] at presents
    refine ⟨_, wellFormed, ?_, .real rfl (real_eq_ok ?_ (by simp))⟩
    · rw [written, isText, if_pos inRange]
    · rw [presents.toBinary64?_decimal]
      exact rounded
  · obtain ⟨whole, fraction, wellFormed, isText, presents⟩ :=
      isSignificant.exists_scientific (exponent + digits.length - 1)
        number.negative
    rw [Int.sub_add_cancel, Int.add_sub_cancel] at presents
    refine ⟨_, wellFormed, ?_, .real ?_ (real_eq_ok ?_ ?_)⟩
    · rw [written, isText, if_neg inRange]
    · cases fraction <;> rfl
    · rw [presents.toBinary64?_decimal]
      exact rounded
    · rintro _ ⟨⟩
      rw [Text.ofDigitChars_ofNat, exponentLimit]
      omega

/-- A number that fits is read as itself. -/
theorem exists_numeral
    {number : Number}
    (inRange : number.fits) :
    ∃ numeral : Numeral, numeral.WellFormed ∧
      numeral.written = number.toText ∧ numeral.Denotes number := by
  cases number with
  | integer number => exact exists_numeral_integer inRange
  | real number => exact exists_numeral_real number

/-! ## Reading -/

variable {number : Number}

theorem number_toText_append
    {rest : Text}
    (inRange : number.fits)
    (ends : EndsNumeral rest) :
    Json.number (number.toText ++ rest) = .ok (number, rest) := by
  obtain ⟨numeral, wellFormed, isText, denotes⟩ := exists_numeral inRange
  rw [← isText, denotes.number_append wellFormed ends]

theorem isNumeralChar_of_mem_toText
    (inRange : number.fits) :
    ∀ char ∈ number.toText, isNumeralChar char := by
  obtain ⟨numeral, wellFormed, isText, _⟩ := exists_numeral inRange
  rw [← isText]
  exact wellFormed.isNumeralChar

/-- The numeral of a number starts with its sign or a digit. -/
theorem exists_cons_toText
    (inRange : number.fits) :
    ∃ first others, number.toText = first :: others ∧
      (first = '-' ∨ first.isDigit) := by
  obtain ⟨numeral, wellFormed, isText, _⟩ := exists_numeral inRange
  rw [← isText]
  exact wellFormed.exists_cons

theorem fits_of_integer?
    {numeral : Numeral}
    {number : Int}
    (isInteger : numeral.integer? = some number) :
    fits (.integer number) := by
  simp only [fits, Bool.and_eq_true, decide_eq_true_eq]
  unfold integer? at isInteger
  split at isInteger
  next =>
    dsimp only at isInteger
    split at isInteger
    next =>
      split at isInteger
      next small =>
        cases isInteger
        simp only [Bool.and_eq_true, decide_eq_true_eq] at small
        omega
      next => cases isInteger
    next =>
      split at isInteger
      next small =>
        cases isInteger
        simp only [Numeric.fitsUInt64, decide_eq_true_eq] at small
        omega
      next => cases isInteger
  next => cases isInteger

/-- Every number that is read fits. -/
theorem fits_of_number
    {text rest : Text}
    (isRead : Json.number text = .ok (number, rest)) :
    number.fits := by
  rw [Json.number, Outcome.bind_eq_ok_iff] at isRead
  obtain ⟨⟨numeral, afterNumeral⟩, _, isRead⟩ := isRead
  dsimp only at isRead
  split at isRead
  next number isInteger =>
    cases isRead
    exact fits_of_integer? isInteger
  next =>
    obtain ⟨number, _, isReal⟩ := Outcome.bind_eq_ok_iff.mp isRead
    cases isReal
    rfl

end Number
end Json
end CellPreview
