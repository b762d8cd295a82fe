import CellPreview.Calendar.Reading
import CellPreview.Proofs.Calendar.DayCount
import CellPreview.Proofs.Numeric.Integer
import CellPreview.Proofs.Text.Blank
import Mathlib.Data.Rat.Floor

/-!
# Dates and timestamps as they are written

The two notations as relations between what is written and the text. A plain
date is read exactly if the calendar has it, and a timestamp as its instant,
floored to milliseconds: the digits of the fraction that are cut off count less
than a millisecond, also before 1970, since everything else is whole.
-/

namespace CellPreview
namespace Calendar

/-! ## Notations -/

/-- A year in a plain date: up to four digits, or any number of them after a
sign. -/
inductive IsYear : Int -> Text -> Prop
  | unsigned {digits : Text} {number : Nat} :
      digits.Denotes number -> digits.length ≤ 4 -> IsYear number digits
  | plus {digits : Text} {number : Nat} :
      digits.Denotes number -> IsYear number ('+' :: digits)
  | minus {digits : Text} {number : Nat} :
      digits.Denotes number -> IsYear (-number) ('-' :: digits)

/-- A month or a day in a plain date: one or two digits, perhaps with blanks in
front. -/
inductive IsShortNumber : Nat -> Text -> Prop
  | written {gap digits : Text} {number : Nat} :
      (∀ char ∈ gap, Text.isBlank char) -> digits.Denotes number ->
      digits.length ≤ 2 -> IsShortNumber number (gap ++ digits)

/-- A plain date: a year, a month and a day, joined by hyphens. -/
inductive IsPlainDate : Date -> Text -> Prop
  | written {yearText monthText dayText : Text} {year : Int}
      {month day : Nat} :
      IsYear year yearText -> IsShortNumber month monthText ->
      IsShortNumber day dayText ->
      IsPlainDate ⟨year, month, day⟩
        (yearText ++ '-' :: (monthText ++ '-' :: dayText))

/-- A number with a fixed count of digits. -/
def IsFixedNumber (count number : Nat) (digits : Text) : Prop :=
  digits.Denotes number ∧ digits.length = count

instance (count number : Nat) (digits : Text) :
    Decidable (IsFixedNumber count number digits) :=
  inferInstanceAs (Decidable (_ ∧ _))

/-- The fraction of a second: nothing, or a point and digits. -/
inductive IsFraction : Text -> Text -> Prop
  | none : IsFraction [] []
  | digits {digits : Text} :
      digits ≠ [] -> (∀ char ∈ digits, char.isDigit) ->
      IsFraction digits ('.' :: digits)

/-- Minutes by which local time is ahead of universal time. -/
inductive IsOffset : Int -> Text -> Prop
  | universal {char : Char} : char = 'Z' ∨ char = 'z' -> IsOffset 0 [char]
  | ahead {hoursText minutesText : Text} {hours minutes : Nat} :
      IsFixedNumber 2 hours hoursText -> hours < 24 ->
      IsFixedNumber 2 minutes minutesText -> minutes < 60 ->
      IsOffset (hours * 60 + minutes : Nat)
        ('+' :: (hoursText ++ ':' :: minutesText))
  | behind {sign : Char} {hoursText minutesText : Text} {hours minutes : Nat} :
      sign = '-' ∨ sign = '\u2212' ->
      IsFixedNumber 2 hours hoursText -> hours < 24 ->
      IsFixedNumber 2 minutes minutesText -> minutes < 60 ->
      IsOffset (-(hours * 60 + minutes : Nat))
        (sign :: (hoursText ++ ':' :: minutesText))

/-- What a timestamp says. -/
structure Timestamp where
  date : Date
  hour : Nat
  minute : Nat
  second : Nat
  /-- Digits of the fraction of a second. -/
  fraction : Text
  /-- Minutes by which local time is ahead of universal time. -/
  offset : Int

/-- A timestamp: a full date, a time of day and an offset. -/
inductive IsTimestamp : Timestamp -> Text -> Prop
  | written {yearText monthText dayText hourText minuteText secondText
        fractionText fraction zone : Text}
      {year month day hour minute second : Nat} {offset : Int}
      {separator : Char} :
      IsFixedNumber 4 year yearText -> IsFixedNumber 2 month monthText ->
      IsFixedNumber 2 day dayText -> isDateTimeSeparator separator ->
      IsFixedNumber 2 hour hourText -> IsFixedNumber 2 minute minuteText ->
      IsFixedNumber 2 second secondText -> IsFraction fraction fractionText ->
      IsOffset offset zone ->
      IsTimestamp ⟨⟨year, month, day⟩, hour, minute, second, fraction, offset⟩
        (yearText ++ '-' :: (monthText ++ '-' :: (dayText ++ separator ::
          (hourText ++ ':' :: (minuteText ++ ':' :: (secondText ++
            (fractionText ++ zone)))))))

namespace Timestamp

/-- Timestamps of a supported date and a time of day without a leap second. -/
structure InRange (stamp : Timestamp) : Prop where
  date : stamp.date.isValid
  hour : stamp.hour < 24
  minute : stamp.minute < 60
  second : stamp.second < 60

/-- The fraction of a second, as an exact number. -/
def fractionOfSecond (stamp : Timestamp) : ℚ :=
  Nat.ofDigitChars 10 stamp.fraction 0 / 10 ^ stamp.fraction.length

/-- Seconds from the first instant of 1970 in universal time, as an exact
number, if the date is `days` days after the first of January 1970. -/
def instant (stamp : Timestamp) (days : Int) : ℚ :=
  days * 86400 + stamp.hour * 3600 + stamp.minute * 60 + stamp.second +
    stamp.fractionOfSecond - stamp.offset * 60

end Timestamp

/-! ## Plain dates are read -/

theorem someDigits?_append
    {digits rest : Text}
    {number most : Nat}
    (denotes : digits.Denotes number)
    (within : digits.length ≤ most)
    (stops : ∀ char ∈ rest.head?, char.isDigit = false) :
    someDigits? most (digits ++ rest) = some (number, rest) := by
  have stillStops : ∀ char ∈ (rest.take (most - digits.length)).head?,
      char.isDigit = false := by
    cases rest with
    | nil => simp
    | cons char rest =>
        cases most - digits.length with
        | zero => simp
        | succ => exact stops
  have taken := (Text.span_of_forall denotes.areDigits stillStops).1
  rw [someDigits?, List.take_append, List.take_of_length_le within]
  simp [taken, Numeric.readDigits?_eq_some_iff.mpr denotes]

/-- Blanks in front of digits are skipped. -/
theorem trimStart_append
    {gap digits : Text}
    {number : Nat}
    (allBlank : ∀ char ∈ gap, Text.isBlank char)
    (denotes : digits.Denotes number)
    (rest : Text) :
    (gap ++ digits ++ rest).trimStart = digits ++ rest := by
  obtain ⟨digit, others, rfl, isDigit⟩ := denotes.exists_cons
  have notBlank := Text.isBlank_eq_false_of_isDigit isDigit
  rw [Text.trimStart, List.append_assoc,
    List.dropWhile_append_of_pos allBlank]
  simp [notBlank]

theorem IsShortNumber.someDigits?_eq
    {number : Nat}
    {text rest : Text}
    (isNumber : IsShortNumber number text)
    (stops : ∀ char ∈ rest.head?, char.isDigit = false) :
    someDigits? 2 (text ++ rest).trimStart = some (number, rest) := by
  cases isNumber with
  | written allBlank denotes within =>
      rw [trimStart_append allBlank denotes]
      exact someDigits?_append denotes within stops

theorem IsYear.year?_eq
    {year : Int}
    {text rest : Text}
    (isYear : IsYear year text)
    (stops : ∀ char ∈ rest.head?, char.isDigit = false) :
    year? (text ++ rest) = some (year, rest) := by
  cases isYear with
  | unsigned denotes within =>
      have found := someDigits?_append denotes within stops
      obtain ⟨digit, others, rfl, isDigit⟩ := denotes.exists_cons
      obtain ⟨notMinus, notPlus⟩ := Numeric.ne_sign_of_isDigit isDigit
      rw [year?.eq_3 _ (by simp [notMinus]) (by simp [notPlus]), found]
      rfl
  | @plus digits number denotes =>
      have within : digits.length ≤ (digits ++ rest).length := by simp
      rw [List.cons_append, year?, someDigits?_append denotes within stops]
      rfl
  | @minus digits number denotes =>
      have within : digits.length ≤ (digits ++ rest).length := by simp
      rw [List.cons_append, year?, someDigits?_append denotes within stops]
      rfl

theorem IsYear.exists_cons
    {year : Int}
    {text : Text}
    (isYear : IsYear year text) :
    ∃ first others, text = first :: others ∧ Text.isBlank first = false := by
  cases isYear with
  | unsigned denotes _ =>
      obtain ⟨digit, others, rfl, isDigit⟩ := denotes.exists_cons
      exact ⟨digit, others, rfl, Text.isBlank_eq_false_of_isDigit isDigit⟩
  | plus | minus => exact ⟨_, _, rfl, rfl⟩

@[simp] theorem after?_cons (char : Char) (rest : Text) :
    after? char (char :: rest) = some rest := by
  simp [after?]

/-- A plain date is read exactly if the calendar has it. -/
theorem IsPlainDate.plainDate?_eq
    {date : Date}
    {text : Text}
    (isDate : IsPlainDate date text) :
    plainDate? text = if date.isValid then some date else none := by
  cases isDate with
  | @written yearText monthText dayText year month day isYear isMonth isDay =>
      have trimmed (rest : Text) :
          (yearText ++ rest).trimStart = yearText ++ rest := by
        obtain ⟨first, others, rfl, notBlank⟩ := isYear.exists_cons
        rw [Text.trimStart, List.cons_append,
          List.dropWhile_cons_of_neg (by simp [notBlank])]
      have hyphen (rest : Text) :
          ∀ char ∈ ('-' :: rest).head?, char.isDigit = false := by
        rintro char ⟨⟩
        rfl
      have dayRead := @IsShortNumber.someDigits?_eq _ _ [] isDay (by simp)
      rw [List.append_nil] at dayRead
      rw [plainDate?, trimmed]
      simp only [isYear.year?_eq (hyphen _), isMonth.someDigits?_eq (hyphen _),
        dayRead, after?_cons, Option.bind_eq_bind, Option.bind_some,
        List.isEmpty_nil, Bool.true_and]

/-! ## Timestamps are read -/

theorem IsFixedNumber.fixedDigits?_eq
    {count number : Nat}
    {digits : Text}
    (isNumber : IsFixedNumber count number digits)
    (rest : Text) :
    fixedDigits? count (digits ++ rest) = some (number, rest) := by
  obtain ⟨denotes, rfl⟩ := isNumber
  simp [fixedDigits?, Numeric.readDigits?_eq_some_iff.mpr denotes]

/-- Thousandths of a second: the first three digits of the fraction. -/
def thousandths (fraction : Text) : Nat :=
  Nat.ofDigitChars 10 fraction 0 * 1000 / 10 ^ fraction.length

theorem thousandths_lt
    {fraction : Text}
    (areDigits : ∀ char ∈ fraction, char.isDigit) :
    thousandths fraction < 1000 := by
  have below := Text.ofDigitChars_lt areDigits 0
  rw [Nat.zero_add, Nat.one_mul] at below
  rw [thousandths]
  apply Nat.div_lt_of_lt_mul
  omega

/-- The first three digits of a fraction are its thousandths, without the rest
of it. -/
theorem ofDigitChars_take_three
    {fraction : Text}
    (nonempty : fraction ≠ [])
    (areDigits : ∀ char ∈ fraction, char.isDigit) :
    Nat.ofDigitChars 10 ((fraction ++ ['0', '0']).take 3) 0 =
      thousandths fraction := by
  match fraction, nonempty with
  | [tenth], _ =>
      simp only [thousandths, List.cons_append, List.nil_append, List.take,
        Nat.ofDigitChars_cons, Nat.ofDigitChars_nil, List.length_singleton,
        Nat.pow_one]
      omega
  | [tenth, hundredth], _ =>
      simp only [thousandths, List.cons_append, List.nil_append, List.take,
        Nat.ofDigitChars_cons, Nat.ofDigitChars_nil, List.length_cons,
        List.length_nil]
      omega
  | tenth :: hundredth :: thousandth :: others, _ =>
      have othersLt := @Text.ofDigitChars_lt others
        (fun char present => areDigits char (by simp [present])) 0
      rw [Nat.zero_add, Nat.one_mul] at othersLt
      generalize leadingEq :
        Nat.ofDigitChars 10 [tenth, hundredth, thousandth] 0 = leading
      have whole :
          Nat.ofDigitChars 10 (tenth :: hundredth :: thousandth :: others) 0 =
            10 ^ others.length * leading + Nat.ofDigitChars 10 others 0 := by
        rw [← leadingEq, ← Nat.ofDigitChars_eq_ofDigitChars_zero,
          ← Nat.ofDigitChars_append]
        rfl
      have length : (tenth :: hundredth :: thousandth :: others).length =
          others.length + 3 := rfl
      have taken : (tenth :: hundredth :: thousandth :: others ++
          ['0', '0']).take 3 = [tenth, hundredth, thousandth] := rfl
      rw [thousandths, whole, length, taken, leadingEq, Nat.pow_add,
        Nat.mul_div_mul_right _ _ (by decide),
        Nat.mul_add_div (Nat.pow_pos (by decide)), Nat.div_eq_of_lt othersLt,
        Nat.add_zero]

theorem IsFraction.fractionMillis?_eq
    {fraction text rest : Text}
    (isFraction : IsFraction fraction text)
    (stops : ∀ char ∈ rest.head?, char.isDigit = false ∧ char ≠ '.') :
    fractionMillis? (text ++ rest) = some (thousandths fraction, rest) := by
  cases isFraction with
  | none =>
      have noPoint : ∀ others, [] ++ rest = '.' :: others -> False := by
        rintro others rfl
        exact (stops '.' rfl).2 rfl
      rw [fractionMillis?.eq_2 _ noPoint]
      rfl
  | digits nonempty areDigits =>
      obtain ⟨taken, dropped⟩ := Text.span_of_forall areDigits
        fun char isFirst => (stops char isFirst).1
      rw [List.cons_append, fractionMillis?]
      simp only [taken, dropped, List.isEmpty_eq_false_iff.mpr nonempty,
        ofDigitChars_take_three nonempty areDigits, Bool.false_eq_true,
        if_false]

theorem offsetSize?_eq
    {hours minutes : Nat}
    {hoursText minutesText : Text}
    (areHours : IsFixedNumber 2 hours hoursText)
    (fewHours : hours < 24)
    (areMinutes : IsFixedNumber 2 minutes minutesText)
    (fewMinutes : minutes < 60) :
    offsetSize? (hoursText ++ ':' :: minutesText) =
      some (hours * 60 + minutes, []) := by
  have minutesRead := areMinutes.fixedDigits?_eq []
  rw [List.append_nil] at minutesRead
  simp [offsetSize?, areHours.fixedDigits?_eq, minutesRead, fewHours,
    fewMinutes]

theorem IsOffset.offset?_eq
    {offset : Int}
    {zone : Text}
    (isOffset : IsOffset offset zone) :
    offset? zone = some (offset, []) := by
  cases isOffset with
  | universal isLetter => obtain rfl | rfl := isLetter <;> rfl
  | ahead areHours fewHours areMinutes fewMinutes =>
      rw [offset?, offsetSize?_eq areHours fewHours areMinutes fewMinutes]
      rfl
  | behind isSign areHours fewHours areMinutes fewMinutes =>
      have size := offsetSize?_eq areHours fewHours areMinutes fewMinutes
      obtain rfl | rfl := isSign <;> simp [offset?, size]

theorem IsOffset.head?
    {offset : Int}
    {zone : Text}
    (isOffset : IsOffset offset zone) :
    ∀ char ∈ zone.head?, char.isDigit = false ∧ char ≠ '.' := by
  rintro char isFirst
  cases isOffset with
  | universal isLetter =>
      cases isFirst
      obtain rfl | rfl := isLetter <;> decide
  | ahead =>
      cases isFirst
      decide
  | behind isSign =>
      cases isFirst
      obtain rfl | rfl := isSign <;> decide

theorem IsOffset.natAbs_lt
    {offset : Int}
    {zone : Text}
    (isOffset : IsOffset offset zone) :
    offset.natAbs < 1440 := by
  cases isOffset <;> omega

/-- The instant of a timestamp, floored to milliseconds: all but the fraction
is whole. -/
theorem Timestamp.floor_instant (stamp : Timestamp) (days : Int) :
    ⌊stamp.instant days * 1000⌋ =
      days * millisPerDay +
        (TimeOfDay.mk stamp.hour stamp.minute stamp.second
          (thousandths stamp.fraction)).millis - stamp.offset * 60000 := by
  have parts : stamp.instant days * 1000 =
      ((days * 86400000 + stamp.hour * 3600000 +
        stamp.minute * 60000 + stamp.second * 1000 - stamp.offset * 60000 : Int) :
          ℚ) +
        ((Nat.ofDigitChars 10 stamp.fraction 0 * 1000 : Nat) : Int) /
          (10 ^ stamp.fraction.length : Nat) := by
    simp only [instant, fractionOfSecond]
    push_cast
    ring
  rw [parts, Int.floor_intCast_add, Rat.floor_intCast_div_natCast]
  simp only [TimeOfDay.millis, thousandths, millisPerDay]
  push_cast
  ring

/-- A timestamp in range is read as its instant. -/
theorem IsTimestamp.timestampMillis?_eq
    {stamp : Timestamp}
    {text : Text}
    (isTimestamp : IsTimestamp stamp text)
    (inRange : stamp.InRange) :
    timestampMillis? text = some ⌊stamp.instant stamp.date.dayNumber * 1000⌋ := by
  rw [Timestamp.floor_instant]
  obtain ⟨dateValid, fewHours, fewMinutes, fewSeconds⟩ := inRange
  cases isTimestamp with
  | @written _ _ _ _ _ _ _ _ _ _ _ _ hour minute second _ _ isYear isMonth
      isDay isSeparator isHour isMinute isSecond isFraction isOffset =>
      have timeValid (milli : Nat) :
          (TimeOfDay.mk hour minute second milli).isValid := by
        simp only [TimeOfDay.isValid, Bool.and_eq_true, decide_eq_true_eq]
        dsimp only at fewHours fewMinutes fewSeconds
        omega
      simp only [timestampMillis?, fullDate?, timeOfDay?,
        isYear.fixedDigits?_eq, isMonth.fixedDigits?_eq, isDay.fixedDigits?_eq,
        isHour.fixedDigits?_eq, isMinute.fixedDigits?_eq,
        isSecond.fixedDigits?_eq, isFraction.fractionMillis?_eq isOffset.head?,
        isOffset.offset?_eq, after?_cons, isSeparator, dateValid, timeValid,
        Option.bind_eq_bind, Option.bind_some, Option.pure_def, if_true,
        List.isEmpty_nil, Bool.true_and]

/-- The instants of timestamps are no larger than those of dates, but for the
time of day and the offset. -/
theorem IsTimestamp.natAbs_floor_lt
    {stamp : Timestamp}
    {text : Text}
    (isTimestamp : IsTimestamp stamp text)
    (inRange : stamp.InRange) :
    ⌊stamp.instant stamp.date.dayNumber * 1000⌋.natAbs < 97000002 * 86400000 := by
  have days := Date.natAbs_dayNumber_lt inRange.date
  have fewHours := inRange.hour
  have fewMinutes := inRange.minute
  have fewSeconds := inRange.second
  have offset : stamp.offset.natAbs < 1440 := by
    cases isTimestamp with
    | written _ _ _ _ _ _ _ _ isOffset => exact isOffset.natAbs_lt
  have fraction : thousandths stamp.fraction < 1000 := by
    cases isTimestamp with
    | written _ _ _ _ _ _ _ isFraction _ =>
        cases isFraction with
        | none => exact thousandths_lt (by simp)
        | digits _ areDigits => exact thousandths_lt areDigits
  simp only [Timestamp.floor_instant, TimeOfDay.millis, millisPerDay]
  omega

/-! ## The two notations differ -/

theorem mem_of_after?
    {char : Char}
    {text rest : Text}
    (found : after? char text = some rest) :
    char ∈ text := by
  unfold after? at found
  split at found
  · cases found
  · split at found
    · simp [*]
    · cases found

theorem subset_of_fixedDigits?
    {count number : Nat}
    {text rest : Text}
    (found : fixedDigits? count text = some (number, rest)) :
    rest ⊆ text := by
  unfold fixedDigits? at found
  dsimp only at found
  split at found
  · obtain ⟨_, _, same⟩ := Option.map_eq_some_iff.mp found
    cases same
    exact List.drop_subset _ _
  · cases found

theorem subset_of_after?
    {char : Char}
    {text rest : Text}
    (found : after? char text = some rest) :
    rest ⊆ text := by
  unfold after? at found
  split at found
  · cases found
  · split at found
    · cases found
      exact List.subset_cons_self _ _
    · cases found

theorem subset_of_fullDate?
    {date : Date}
    {text rest : Text}
    (found : fullDate? text = some (date, rest)) :
    rest ⊆ text := by
  simp only [fullDate?, Option.bind_eq_bind, Option.bind_eq_some_iff,
    Prod.exists, Option.pure_def, Option.some.injEq, Prod.mk.injEq] at found
  obtain ⟨_, _, isYear, _, afterYear, _, _, isMonth, _, afterMonth, _, _,
    isDay, _, same⟩ := found
  calc rest
    _ ⊆ _ := same ▸ subset_of_fixedDigits? isDay
    _ ⊆ _ := subset_of_after? afterMonth
    _ ⊆ _ := subset_of_fixedDigits? isMonth
    _ ⊆ _ := subset_of_after? afterYear
    _ ⊆ text := subset_of_fixedDigits? isYear

theorem colon_mem_of_timeOfDay?
    {time : TimeOfDay}
    {text rest : Text}
    (found : timeOfDay? text = some (time, rest)) :
    ':' ∈ text := by
  simp only [timeOfDay?, Option.bind_eq_bind, Option.bind_eq_some_iff,
    Prod.exists] at found
  obtain ⟨_, _, isHour, _, afterHour, _⟩ := found
  exact subset_of_fixedDigits? isHour (mem_of_after? afterHour)

/-- A timestamp has a colon. -/
theorem colon_mem_of_timestampMillis?
    {text : Text}
    {millis : Int}
    (found : timestampMillis? text = some millis) :
    ':' ∈ text := by
  obtain ⟨⟨date, afterDate⟩, isDate, behindDate⟩ :=
    Option.bind_eq_some_iff.mp found
  refine subset_of_fullDate? isDate ?_
  cases afterDate with
  | nil => cases behindDate
  | cons separator afterSeparator =>
      dsimp only at behindDate
      split at behindDate
      · obtain ⟨_, isTime, _⟩ := Option.bind_eq_some_iff.mp behindDate
        exact List.mem_cons_of_mem _ (colon_mem_of_timeOfDay? isTime)
      · cases behindDate

/-- A plain date has no colon. -/
theorem IsPlainDate.notMem_colon
    {date : Date}
    {text : Text}
    (isDate : IsPlainDate date text) :
    ':' ∉ text := by
  have inNumber {number : Nat} {digits : Text}
      (isNumber : IsShortNumber number digits) : ':' ∉ digits := by
    cases isNumber with
    | written allBlank denotes _ =>
        rw [List.mem_append, not_or]
        refine ⟨fun present => ?_, denotes.notMem rfl⟩
        cases allBlank ':' present
  cases isDate with
  | @written yearText _ _ _ _ _ isYear isMonth isDay =>
      have inYear : ':' ∉ yearText := by
        cases isYear with
        | unsigned denotes _ => exact denotes.notMem rfl
        | plus denotes | minus denotes =>
            rw [List.mem_cons, not_or]
            exact ⟨by decide, denotes.notMem rfl⟩
      simp [inYear, inNumber isMonth, inNumber isDay]

/-- A plain date of the calendar stands for its first instant. -/
theorem IsPlainDate.millis?_eq
    {date : Date}
    {text : Text}
    (isDate : IsPlainDate date text)
    (isValid : date.isValid) :
    millis? text = some (date.dayNumber * millisPerDay) := by
  have noTimestamp : timestampMillis? text = none := by
    rw [Option.eq_none_iff_forall_ne_some]
    intro millis found
    exact isDate.notMem_colon (colon_mem_of_timestampMillis? found)
  rw [millis?, noTimestamp, isDate.plainDate?_eq, if_pos isValid]
  rfl

theorem IsTimestamp.millis?_eq
    {stamp : Timestamp}
    {text : Text}
    (isTimestamp : IsTimestamp stamp text)
    (inRange : stamp.InRange) :
    millis? text = some ⌊stamp.instant stamp.date.dayNumber * 1000⌋ := by
  rw [millis?, isTimestamp.timestampMillis?_eq inRange]
  rfl

/-! ## Neither notation is a numeral -/

/-- A year with a hyphen behind it is not the start of a numeral. -/
theorem IsYear.read?_eq_none
    {year : Int}
    {text : Text}
    (isYear : IsYear year text)
    (rest : Text) :
    Numeric.Decimal.read? (text ++ '-' :: rest) = none := by
  cases isYear with
  | unsigned denotes _ =>
      exact Numeric.Decimal.read?_eq_none_of_hyphen denotes
        (Numeric.Decimal.readSign_append denotes _)
  | plus denotes | minus denotes =>
      exact Numeric.Decimal.read?_eq_none_of_hyphen denotes rfl

theorem IsFixedNumber.isYear
    {number : Nat}
    {text : Text}
    (isNumber : IsFixedNumber 4 number text) :
    IsYear number text :=
  .unsigned isNumber.1 isNumber.2.le

/-- No blanks stand in front of a year. -/
theorem IsYear.trim_eq
    {year : Int}
    {text rest : Text}
    (isYear : IsYear year text)
    (ends : rest.EndsInInk) :
    (text ++ rest).trim = text ++ rest := by
  have wholeEnds := ends.append text
  obtain ⟨first, others, rfl, notBlank⟩ := isYear.exists_cons
  exact Text.trim_eq_self notBlank wholeEnds

theorem IsOffset.endsInInk
    {offset : Int}
    {zone : Text}
    (isOffset : IsOffset offset zone) :
    zone.EndsInInk := by
  have numbersEnd (sign : Char) (hoursText : Text) {minutesText : Text}
      {minutes : Nat} (areMinutes : IsFixedNumber 2 minutes minutesText) :
      Text.EndsInInk (sign :: (hoursText ++ ':' :: minutesText)) := by
    simpa using areMinutes.1.endsInInk.append (sign :: hoursText ++ [':'])
  cases isOffset with
  | universal isLetter =>
      refine ⟨[], _, rfl, ?_⟩
      obtain rfl | rfl := isLetter <;> rfl
  | ahead _ _ areMinutes _ => exact numbersEnd _ _ areMinutes
  | behind _ _ _ areMinutes _ => exact numbersEnd _ _ areMinutes

/-- A plain date is not a numeral, and there are no blanks around it. -/
theorem IsPlainDate.not_numeral
    {date : Date}
    {text : Text}
    (isDate : IsPlainDate date text) :
    text.trim = text ∧ Numeric.Decimal.read? text = none := by
  cases isDate with
  | @written yearText monthText _ _ _ _ isYear _ isDay =>
      refine ⟨isYear.trim_eq ?_, isYear.read?_eq_none _⟩
      cases isDay with
      | @written gap _ _ _ denotes _ =>
          simpa using
            denotes.endsInInk.append ('-' :: monthText ++ '-' :: gap)

/-- A timestamp is not a numeral, and there are no blanks around it. -/
theorem IsTimestamp.not_numeral
    {stamp : Timestamp}
    {text : Text}
    (isTimestamp : IsTimestamp stamp text) :
    text.trim = text ∧ Numeric.Decimal.read? text = none := by
  cases isTimestamp with
  | @written _ monthText dayText hourText minuteText secondText fractionText _ _
      _ _ _ _ _ _ _ separator isYear _ _ _ _ _ _ _ isOffset =>
      refine ⟨isYear.isYear.trim_eq ?_, isYear.isYear.read?_eq_none _⟩
      simpa using isOffset.endsInInk.append
        ('-' :: monthText ++ '-' :: dayText ++ separator :: hourText ++
          ':' :: minuteText ++ ':' :: secondText ++ fractionText)

end Calendar
end CellPreview
