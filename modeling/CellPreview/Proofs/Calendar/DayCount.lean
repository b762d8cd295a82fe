import CellPreview.Calendar.Date
import Mathlib.Logic.Function.Iterate
import Mathlib.Order.Monotone.Basic

/-!
# Counting days

The number of a date is the number of days from the first of January 1970, as
they are counted from one date to the next. Dates are numbered in calendar
order, so no two have one number, and two dates are as many days apart as their
numbers differ.
-/

namespace CellPreview
namespace Calendar

/-- Number of days in a year. -/
def daysInYear (year : Int) : Nat :=
  if isLeap year then 366 else 365

/-- The twelve months have days, and no others. -/
theorem daysInMonth_pos_iff
    {year : Int}
    {month : Nat} :
    0 < daysInMonth year month ↔ 1 ≤ month ∧ month ≤ 12 := by
  constructor
  · intro positive
    unfold daysInMonth at positive
    split at positive <;> omega
  · rintro ⟨first, last⟩
    unfold daysInMonth
    split <;> grind

namespace Date

/-- Dates whose month has their day, in whatever year. -/
def InCalendar (date : Date) : Prop :=
  1 ≤ date.day ∧ date.day ≤ daysInMonth date.year date.month

theorem inCalendar_of_isValid
    {date : Date}
    (isValid : date.isValid) :
    date.InCalendar := by
  simp only [Date.isValid, Bool.and_eq_true, decide_eq_true_eq] at isValid
  exact ⟨isValid.1.2, isValid.2⟩

theorem InCalendar.month
    {date : Date}
    (inCalendar : date.InCalendar) :
    1 ≤ date.month ∧ date.month ≤ 12 :=
  daysInMonth_pos_iff.mp
    (Nat.lt_of_lt_of_le Nat.one_pos (Nat.le_trans inCalendar.1 inCalendar.2))

/-- The day after a date. -/
def next (date : Date) : Date :=
  if date.day < daysInMonth date.year date.month then
    ⟨date.year, date.month, date.day + 1⟩
  else if date.month < 12 then
    ⟨date.year, date.month + 1, 1⟩
  else
    ⟨date.year + 1, 1, 1⟩

/-! ## Days before a month and a year -/

theorem daysBeforeMonth_mono (year : Int) :
    Monotone (daysBeforeMonth year) :=
  monotone_nat_of_le_succ fun _ => Nat.le_add_right _ _

theorem daysBeforeMonth_first (year : Int) : daysBeforeMonth year 1 = 0 := rfl

/-- The twelve months make up the year. -/
theorem daysBeforeMonth_end (year : Int) :
    daysBeforeMonth year 13 = daysInYear year := by
  simp only [daysBeforeMonth, daysInMonth, daysInYear]
  split <;> rfl

theorem daysBeforeYear_succ (year : Int) :
    daysBeforeYear (year + 1) = daysBeforeYear year + daysInYear year := by
  simp only [daysBeforeYear, daysInYear, isLeap, Bool.and_eq_true,
    Bool.or_eq_true, decide_eq_true_eq]
  split <;> omega

theorem daysBeforeYear_mono
    {first second : Int}
    (le : first ≤ second) :
    daysBeforeYear first ≤ daysBeforeYear second := by
  simp only [daysBeforeYear]
  omega

/-- A date lies in its year. -/
theorem InCalendar.day_le
    {date : Date}
    (inCalendar : date.InCalendar) :
    daysBeforeMonth date.year date.month + date.day ≤ daysInYear date.year := by
  have throughMonth :
      daysBeforeMonth date.year (date.month + 1) ≤ daysBeforeMonth date.year 13 :=
    daysBeforeMonth_mono date.year (by have := inCalendar.month; omega)
  rw [daysBeforeMonth_end, daysBeforeMonth] at throughMonth
  have inMonth := inCalendar.2
  omega

/-! ## Calendar order -/

/-- Calendar order: by the year, then by the month, then by the day. -/
def Precedes (first second : Date) : Prop :=
  first.year < second.year ∨ first.year = second.year ∧
    (first.month < second.month ∨
      first.month = second.month ∧ first.day < second.day)

/-- Dates are numbered in calendar order. -/
theorem Precedes.dayNumber_lt
    {first second : Date}
    (precedes : first.Precedes second)
    (firstInCalendar : first.InCalendar)
    (secondInCalendar : second.InCalendar) :
    first.dayNumber < second.dayNumber := by
  have firstDay := secondInCalendar.1
  obtain ⟨firstYear, firstMonth, day⟩ := first
  obtain ⟨secondYear, secondMonth, secondDay⟩ := second
  obtain earlierYear | ⟨rfl, earlierMonth | ⟨rfl, earlierDay⟩⟩ := precedes
  · have throughYear := daysBeforeYear_mono
      (show firstYear + 1 ≤ secondYear from earlierYear)
    rw [daysBeforeYear_succ] at throughYear
    have inYear := firstInCalendar.day_le
    simp only [dayNumber] at *
    omega
  · have throughMonth := daysBeforeMonth_mono firstYear
      (show firstMonth + 1 ≤ secondMonth from earlierMonth)
    rw [daysBeforeMonth] at throughMonth
    have inMonth := firstInCalendar.2
    simp only [dayNumber] at *
    omega
  · simp only [dayNumber] at *
    omega

theorem precedes_trichotomy (first second : Date) :
    first.Precedes second ∨ first = second ∨ second.Precedes first := by
  obtain ⟨firstYear, firstMonth, firstDay⟩ := first
  obtain ⟨secondYear, secondMonth, secondDay⟩ := second
  simp only [Precedes, Date.mk.injEq]
  omega

/-- A date has a number at most that of another exactly if it does not come
after it. -/
theorem dayNumber_le_iff
    {first second : Date}
    (firstInCalendar : first.InCalendar)
    (secondInCalendar : second.InCalendar) :
    first.dayNumber ≤ second.dayNumber ↔
      first = second ∨ first.Precedes second := by
  constructor
  · intro le
    obtain precedes | same | follows := precedes_trichotomy first second
    · exact .inr precedes
    · exact .inl same
    · have := follows.dayNumber_lt secondInCalendar firstInCalendar
      omega
  · rintro (rfl | precedes)
    · exact le_refl _
    · exact (precedes.dayNumber_lt firstInCalendar secondInCalendar).le

theorem dayNumber_inj
    {first second : Date}
    (firstInCalendar : first.InCalendar)
    (secondInCalendar : second.InCalendar)
    (same : first.dayNumber = second.dayNumber) :
    first = second := by
  obtain precedes | equal | follows := precedes_trichotomy first second
  · have := precedes.dayNumber_lt firstInCalendar secondInCalendar
    omega
  · exact equal
  · have := follows.dayNumber_lt secondInCalendar firstInCalendar
    omega

/-! ## From one date to the next -/

theorem InCalendar.next
    {date : Date}
    (inCalendar : date.InCalendar) :
    date.next.InCalendar := by
  have isMonth := inCalendar.month
  unfold Date.next
  split
  · exact ⟨by simp, by simpa using ‹_›⟩
  · split
    · exact ⟨Nat.le_refl 1, daysInMonth_pos_iff.mpr (by dsimp only; omega)⟩
    · exact ⟨Nat.le_refl 1, daysInMonth_pos_iff.mpr (by simp)⟩

/-- The next date has the next number. -/
theorem InCalendar.dayNumber_next
    {date : Date}
    (inCalendar : date.InCalendar) :
    date.next.dayNumber = date.dayNumber + 1 := by
  have isMonth := inCalendar.month
  obtain ⟨_, inMonth⟩ := inCalendar
  obtain ⟨year, month, day⟩ := date
  unfold Date.next
  split
  · simp only [dayNumber]
    omega
  · split
    · -- the month is over, and its days are counted with the months before
      simp only [dayNumber, daysBeforeMonth] at *
      omega
    · -- the year is over, and with it the twelve months
      obtain rfl : month = 12 := by dsimp only at *; omega
      have months := daysBeforeMonth_end year
      simp only [dayNumber, daysBeforeYear_succ, daysBeforeMonth_first] at *
      rw [daysBeforeMonth] at months
      omega

theorem InCalendar.iterate_next
    {date : Date}
    (inCalendar : date.InCalendar)
    (days : Nat) :
    (Date.next^[days] date).InCalendar ∧
      (Date.next^[days] date).dayNumber = date.dayNumber + days := by
  induction days with
  | zero => exact ⟨inCalendar, by simp⟩
  | succ days inductionHypothesis =>
      obtain ⟨stillInCalendar, number⟩ := inductionHypothesis
      rw [Function.iterate_succ_apply']
      refine ⟨stillInCalendar.next, ?_⟩
      rw [stillInCalendar.dayNumber_next, number]
      omega

/-- A date comes a number of days after another. The two meet when both go on
from date to date, and the number is the difference of the steps; it is
negative for a date that comes before. -/
def DaysAfter (first second : Date) (days : Int) : Prop :=
  ∃ onwards back : Nat, next^[onwards] first = next^[back] second ∧
    days = onwards - back

/-- Two dates are as many days apart as their numbers differ. -/
theorem daysAfter_iff
    {first second : Date}
    (firstInCalendar : first.InCalendar)
    (secondInCalendar : second.InCalendar)
    {days : Int} :
    DaysAfter first second days ↔
      days = second.dayNumber - first.dayNumber := by
  constructor
  · rintro ⟨onwards, back, meet, rfl⟩
    have firstNumber := (firstInCalendar.iterate_next onwards).2
    have secondNumber := (secondInCalendar.iterate_next back).2
    rw [meet] at firstNumber
    omega
  · rintro rfl
    obtain ⟨onwards, back, difference⟩ : ∃ onwards back : Nat,
        second.dayNumber - first.dayNumber = onwards - back :=
      ⟨(second.dayNumber - first.dayNumber).toNat,
        (first.dayNumber - second.dayNumber).toNat, by omega⟩
    obtain ⟨firstIn, firstNumber⟩ := firstInCalendar.iterate_next onwards
    obtain ⟨secondIn, secondNumber⟩ := secondInCalendar.iterate_next back
    exact ⟨onwards, back, dayNumber_inj firstIn secondIn (by omega), difference⟩

/-- The first of January 1970. -/
def epoch : Date := ⟨1970, 1, 1⟩

theorem inCalendar_epoch : epoch.InCalendar :=
  ⟨Nat.le_refl 1, by decide⟩

/-- The number of a date is the number of days from the epoch to it. -/
theorem daysAfter_epoch_iff
    {date : Date}
    (inCalendar : date.InCalendar)
    {days : Int} :
    DaysAfter epoch date days ↔ days = date.dayNumber := by
  have zero : epoch.dayNumber = 0 := by decide
  rw [daysAfter_iff inCalendar_epoch inCalendar, zero, Int.sub_zero]

/-- The numbers of the supported dates stay below a hundred million. -/
theorem natAbs_dayNumber_lt
    {date : Date}
    (isValid : date.isValid) :
    date.dayNumber.natAbs < 97000000 := by
  have inYear := (inCalendar_of_isValid isValid).day_le
  have length : daysInYear date.year ≤ 366 := by
    unfold daysInYear
    split <;> decide
  simp only [Date.isValid, Bool.and_eq_true, decide_eq_true_eq] at isValid
  obtain ⟨⟨⟨first, last⟩, _⟩, _⟩ := isValid
  rw [dayNumber, daysBeforeYear]
  omega

end Date
end Calendar
end CellPreview
