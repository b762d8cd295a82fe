import CellPreview.Proofs.Calendar.Reading
import CellPreview.Proofs.Formula.Ordering

/-!
# What the compared values measure

An ordering compares integers as they are, and dates and timestamps by their
milliseconds. All of them but the larger integers are numbers of at most 53
bits, which are compared exactly. Larger integers are rounded, and rounding
never turns their order around.
-/

namespace CellPreview
namespace Formula

open Calendar Numeric

/-- What a value measures: an integer of at most 53 bits is itself, a date of
the calendar counts the milliseconds to its first instant, and a timestamp
counts the whole milliseconds to its instant. Both count from the first instant
of 1970 in universal time. -/
inductive Measures : Text -> Int -> Prop
  | integer {text : Text} {number : Int} :
      IsNumeralOf number text -> number.natAbs ≤ 2 ^ 53 -> Measures text number
  | date {text : Text} {date : Date} {days : Int} :
      IsPlainDate date text -> date.isValid ->
      Date.epoch.DaysAfter date days -> Measures text (days * 86400000)
  | timestamp {text : Text} {stamp : Timestamp} {days : Int} :
      IsTimestamp stamp text -> stamp.InRange ->
      Date.epoch.DaysAfter stamp.date days ->
      Measures text ⌊stamp.instant days * 1000⌋

/-- A numeral of an integer of 64 bits stands for the integer, rounded. -/
theorem exists_number?_eq_of_isNumeralOf
    {number : Int}
    {numeral : Text}
    (isNumeral : IsNumeralOf number numeral)
    (within : number.natAbs ≤ 2 ^ 63) :
    ∃ negative size, number = signed negative size ∧
      number? numeral = Binary64.ofQuotient? negative size 1 := by
  obtain ⟨negative, size, rfl, read⟩ := isNumeral.exists_read?_eq
  refine ⟨negative, size, rfl, ?_⟩
  rw [natAbs_signed] at within
  rw [number?, isNumeral.trim_eq]
  simp only [read, Decimal.toBinary64?_integer within]

/-- What is not a numeral stands for its milliseconds, if it has some. -/
theorem number?_of_not_numeral
    {text : Text}
    (notNumeral : text.trim = text ∧ Decimal.read? text = none) :
    number? text = (millis? text).bind Binary64.ofInt? := by
  simp [number?, notNumeral.1, notNumeral.2]

theorem exists_number?_eq_of_millis?
    {text : Text}
    {millis : Int}
    (notNumeral : text.trim = text ∧ Decimal.read? text = none)
    (isMillis : millis? text = some millis)
    (within : millis.natAbs ≤ 2 ^ 53) :
    ∃ number, number? text = some number ∧ number.value = millis := by
  obtain ⟨rounded, isRounded, value⟩ :=
    Binary64.exists_ofQuotient?_natural within (millis < 0)
  refine ⟨rounded, ?_, ?_⟩
  · rw [number?_of_not_numeral notNumeral, Option.bind_eq_some_iff]
    exact ⟨millis, isMillis, isRounded⟩
  · rw [value, signed_natAbs]

/-- What measures something stands for a number of that value. -/
theorem Measures.exists_number?_eq
    {text : Text}
    {measure : Int}
    (measures : Measures text measure) :
    ∃ number, number? text = some number ∧ number.value = measure := by
  cases measures with
  | integer isNumeral within =>
      obtain ⟨negative, size, rfl, isRounded⟩ := exists_number?_eq_of_isNumeralOf
        isNumeral (within.trans (by decide))
      rw [isRounded]
      rw [natAbs_signed] at within
      exact Binary64.exists_ofQuotient?_natural within negative
  | date isDate isValid daysAfter =>
      rw [Date.daysAfter_epoch_iff (Date.inCalendar_of_isValid isValid)]
        at daysAfter
      subst daysAfter
      have days := Date.natAbs_dayNumber_lt isValid
      exact exists_number?_eq_of_millis? isDate.not_numeral
        (isDate.millis?_eq isValid) (by omega)
  | timestamp isTimestamp inRange daysAfter =>
      rw [Date.daysAfter_epoch_iff (Date.inCalendar_of_isValid inRange.date)]
        at daysAfter
      subst daysAfter
      have bound := isTimestamp.natAbs_floor_lt inRange
      exact exists_number?_eq_of_millis? isTimestamp.not_numeral
        (isTimestamp.millis?_eq inRange) (by omega)

namespace Comparison

/-- Integers of 64 bits are ordered, although the larger ones are rounded. -/
theorem atMost_of_le
    {first second : Int}
    {left right : Text}
    (isFirst : IsNumeralOf first left)
    (isSecond : IsNumeralOf second right)
    (firstFits : fitsInt64 first)
    (secondFits : fitsInt64 second)
    (le : first ≤ second) :
    atMost.decide left right = (true, none) := by
  -- two integers may be rounded to one number, so only their order is kept
  have within {number : Int} (fits : fitsInt64 number) :
      number.natAbs ≤ 2 ^ 63 := by
    simp only [fitsInt64, Bool.and_eq_true, decide_eq_true_eq] at fits
    omega
  obtain ⟨firstNegative, firstSize, rfl, readFirst⟩ :=
    exists_number?_eq_of_isNumeralOf isFirst (within firstFits)
  obtain ⟨secondNegative, secondSize, rfl, readSecond⟩ :=
    exists_number?_eq_of_isNumeralOf isSecond (within secondFits)
  have firstWithin := within firstFits
  have secondWithin := within secondFits
  rw [natAbs_signed] at firstWithin secondWithin
  have firstRounded := Binary64.ofQuotient?_natural firstWithin firstNegative
  have secondRounded := Binary64.ofQuotient?_natural secondWithin secondNegative
  rw [decide, ordered_of_some (readFirst.trans firstRounded)
    (readSecond.trans secondRounded),
    Binary64.atMost_of_signed_le firstWithin secondWithin firstRounded
      secondRounded le]

/-- Values are compared by what they measure. -/
theorem atMost_of_measures
    {left right : Text}
    {first second : Int}
    (leftMeasures : Measures left first)
    (rightMeasures : Measures right second) :
    atMost.decide left right = (Decidable.decide (first ≤ second), none) := by
  obtain ⟨firstNumber, readFirst, firstValue⟩ := leftMeasures.exists_number?_eq
  obtain ⟨secondNumber, readSecond, secondValue⟩ :=
    rightMeasures.exists_number?_eq
  have order : firstNumber.atMost secondNumber =
      Decidable.decide (first ≤ second) := by
    rw [Bool.eq_iff_iff, decide_eq_true_eq, Binary64.atMost_iff, firstValue,
      secondValue, Int.cast_le]
  rw [decide, ordered_of_some readFirst readSecond, order]

/-- Dates are compared by their place in the calendar. -/
theorem atMost_of_isPlainDate
    {left right : Text}
    {first second : Date}
    (isFirst : IsPlainDate first left)
    (isSecond : IsPlainDate second right)
    (firstValid : first.isValid)
    (secondValid : second.isValid) :
    (atMost.decide left right).2 = none ∧
      ((atMost.decide left right).1 ↔
        first = second ∨ first.Precedes second) := by
  have firstIn := Date.inCalendar_of_isValid firstValid
  have secondIn := Date.inCalendar_of_isValid secondValid
  have firstMeasures : Measures left (first.dayNumber * 86400000) :=
    .date isFirst firstValid ((Date.daysAfter_epoch_iff firstIn).mpr rfl)
  have secondMeasures : Measures right (second.dayNumber * 86400000) :=
    .date isSecond secondValid ((Date.daysAfter_epoch_iff secondIn).mpr rfl)
  rw [atMost_of_measures firstMeasures secondMeasures,
    ← Date.dayNumber_le_iff firstIn secondIn, decide_eq_true_eq]
  exact ⟨rfl, by omega⟩

/-- Timestamps are compared by their instants, whatever their offsets. -/
theorem atMost_of_instant_le
    {left right : Text}
    {first second : Timestamp}
    {firstDays secondDays : Int}
    (leftMeasures : Measures left ⌊first.instant firstDays * 1000⌋)
    (rightMeasures : Measures right ⌊second.instant secondDays * 1000⌋)
    (le : first.instant firstDays ≤ second.instant secondDays) :
    atMost.decide left right = (true, none) := by
  have floors : ⌊first.instant firstDays * 1000⌋ ≤
      ⌊second.instant secondDays * 1000⌋ :=
    Int.floor_le_floor (mul_le_mul_of_nonneg_right le (by norm_num))
  rw [atMost_of_measures leftMeasures rightMeasures, decide_eq_true floors]

/-- The ordering respects the integers, the calendar and the instants. Integers
of 64 bits are never found in the wrong order. Integers of at most 53 bits,
dates and timestamps are found in the order of what they measure; dates thus in
calendar order, and timestamps in the order of their instants. Every date of
the calendar is some number of days from the epoch. -/
theorem atMost_respects_measures (left right : Text) :
    (∀ first second : Int, IsNumeralOf first left ->
      IsNumeralOf second right -> fitsInt64 first -> fitsInt64 second ->
      first ≤ second -> atMost.decide left right = (true, none)) ∧
    (∀ first second : Int, Measures left first -> Measures right second ->
      atMost.decide left right =
        (Decidable.decide (first ≤ second), none)) ∧
    (∀ first second : Date, IsPlainDate first left ->
      IsPlainDate second right -> first.isValid -> second.isValid ->
      (atMost.decide left right).2 = none ∧
      ((atMost.decide left right).1 ↔
        first = second ∨ first.Precedes second)) ∧
    (∀ (first second : Timestamp) (firstDays secondDays : Int),
      IsTimestamp first left -> IsTimestamp second right ->
      first.InRange -> second.InRange ->
      Date.epoch.DaysAfter first.date firstDays ->
      Date.epoch.DaysAfter second.date secondDays ->
      first.instant firstDays ≤ second.instant secondDays ->
      atMost.decide left right = (true, none)) ∧
    (∀ date : Date, date.isValid -> ∃ days, Date.epoch.DaysAfter date days) := by
  refine ⟨fun first second => atMost_of_le,
    fun first second => atMost_of_measures,
    fun first second => atMost_of_isPlainDate, ?_, ?_⟩
  · intro first second firstDays secondDays isFirst isSecond firstInRange
      secondInRange afterFirst afterSecond
    exact atMost_of_instant_le (.timestamp isFirst firstInRange afterFirst)
      (.timestamp isSecond secondInRange afterSecond)
  · intro date isValid
    exact ⟨date.dayNumber, (Date.daysAfter_epoch_iff
      (Date.inCalendar_of_isValid isValid)).mpr rfl⟩

/-- Two integers that are rounded to one number, a leap day, and timestamps of
one instant that is still the day before. -/
theorem atMost_respects_measures_leap_day :
    let smaller : Text := "9007199254740992"
    let larger : Text := "+9007199254740993"
    let date : Text := "2024-2-29"
    let ahead : Text := "2024-02-29T01:00:00.5+02:00"
    let behind : Text := "2024-02-28 18:00:00.50-05:00"
    let aheadStamp : Timestamp := ⟨⟨2024, 2, 29⟩, 1, 0, 0, ['5'], 120⟩
    let behindStamp : Timestamp := ⟨⟨2024, 2, 28⟩, 18, 0, 0, ['5', '0'], -300⟩
    (IsNumeralOf 9007199254740992 smaller ∧
      IsNumeralOf 9007199254740993 larger ∧
      atMost.decide smaller larger = (true, none)) ∧
    (Measures date (19782 * 86400000) ∧
      Measures ahead ⌊aheadStamp.instant 19782 * 1000⌋ ∧
      atMost.decide date ahead =
        (Decidable.decide (19782 * 86400000 ≤
          ⌊aheadStamp.instant 19782 * 1000⌋), none)) ∧
    ((atMost.decide date date).2 = none ∧ ((atMost.decide date date).1 ↔
      (⟨2024, 2, 29⟩ : Date) = ⟨2024, 2, 29⟩ ∨
        (⟨2024, 2, 29⟩ : Date).Precedes ⟨2024, 2, 29⟩)) ∧
    (aheadStamp.instant 19782 ≤ behindStamp.instant 19781 ∧
      atMost.decide ahead behind = (true, none)) ∧
    ∃ days, Date.epoch.DaysAfter ⟨2024, 2, 29⟩ days := by
  intro smaller larger date ahead behind aheadStamp behindStamp
  have isSmaller : IsNumeralOf 9007199254740992 smaller :=
    .unsigned (by decide +kernel)
  have isLarger : IsNumeralOf 9007199254740993 larger :=
    @IsNumeralOf.plus "9007199254740993".toList _ (by decide +kernel)
  have afterLeapDay : Date.epoch.DaysAfter ⟨2024, 2, 29⟩ 19782 :=
    (Date.daysAfter_epoch_iff ⟨by decide, by decide⟩).mpr (by decide)
  have afterDayBefore : Date.epoch.DaysAfter ⟨2024, 2, 28⟩ 19781 :=
    (Date.daysAfter_epoch_iff ⟨by decide, by decide⟩).mpr (by decide)
  have isDate : IsPlainDate ⟨2024, 2, 29⟩ date :=
    @IsPlainDate.written ['2', '0', '2', '4'] ['2'] ['2', '9'] _ _ _
      (@IsYear.unsigned _ 2024 (by decide) (by decide))
      (@IsShortNumber.written [] ['2'] _ (by simp) (by decide) (by decide))
      (@IsShortNumber.written [] ['2', '9'] _ (by simp) (by decide)
        (by decide))
  have isAhead : IsTimestamp aheadStamp ahead :=
    @IsTimestamp.written ['2', '0', '2', '4'] ['0', '2'] ['2', '9'] ['0', '1']
      ['0', '0'] ['0', '0'] ['.', '5'] ['5'] "+02:00".toList 2024 2 29 1 0 0
      120 'T' (by decide) (by decide) (by decide) (by decide) (by decide)
      (by decide) (by decide)
      (.digits (by simp) (List.all_eq_true.mp rfl))
      (@IsOffset.ahead ['0', '2'] ['0', '0'] 2 0 (by decide) (by decide)
        (by decide) (by decide))
  have isBehind : IsTimestamp behindStamp behind :=
    @IsTimestamp.written ['2', '0', '2', '4'] ['0', '2'] ['2', '8'] ['1', '8']
      ['0', '0'] ['0', '0'] ['.', '5', '0'] ['5', '0'] "-05:00".toList 2024 2
      28 18 0 0 (-300) ' ' (by decide) (by decide) (by decide) (by decide)
      (by decide) (by decide) (by decide)
      (.digits (by simp) (List.all_eq_true.mp rfl))
      (@IsOffset.behind '-' ['0', '5'] ['0', '0'] 5 0 (.inl rfl) (by decide)
        (by decide) (by decide) (by decide))
  have aheadInRange : aheadStamp.InRange := by constructor <;> decide
  have behindInRange : behindStamp.InRange := by constructor <;> decide
  have le : aheadStamp.instant 19782 ≤ behindStamp.instant 19781 := by
    have half : Nat.ofDigitChars 10 ['5'] 0 = 5 := rfl
    have hundredths : Nat.ofDigitChars 10 ['5', '0'] 0 = 50 := rfl
    norm_num [aheadStamp, behindStamp, Timestamp.instant,
      Timestamp.fractionOfSecond, half, hundredths]
  have measuresDate : Measures date (19782 * 86400000) :=
    .date isDate (by decide) afterLeapDay
  have measuresAhead := Measures.timestamp isAhead aheadInRange afterLeapDay
  obtain ⟨integers, _⟩ := atMost_respects_measures smaller larger
  obtain ⟨_, measures, _⟩ := atMost_respects_measures date ahead
  obtain ⟨_, _, dates, _⟩ := atMost_respects_measures date date
  obtain ⟨_, _, _, stamps, days⟩ := atMost_respects_measures ahead behind
  exact ⟨⟨isSmaller, isLarger, integers _ _ isSmaller isLarger (by decide)
      (by decide) (by decide)⟩,
    ⟨measuresDate, measuresAhead, measures _ _ measuresDate measuresAhead⟩,
    dates _ _ isDate isDate (by decide) (by decide),
    ⟨le, stamps _ _ _ _ isAhead isBehind aheadInRange behindInRange
      afterLeapDay afterDayBefore le⟩,
    days _ (by decide)⟩

end Comparison
end Formula
end CellPreview
