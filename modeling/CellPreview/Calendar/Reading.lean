import CellPreview.Calendar.Date
import CellPreview.Numeric.Integer64
import CellPreview.Text.Blank

/-!
# Dates and timestamps in text

Two notations are read. A timestamp is a full date and a time of day with an
offset from universal time. A plain date is a year, a month and a day joined by
hyphens, and stands for its first instant in universal time. Both are turned
into milliseconds from the first instant of 1970.
-/

namespace CellPreview
namespace Calendar

/-- Exactly `count` decimal digits at the start of a text. -/
def fixedDigits? (count : Nat) (text : Text) : Option (Nat × Text) :=
  let digits := text.take count
  if digits.length = count then
    (Numeric.readDigits? digits).map fun number => (number, text.drop count)
  else
    none

/-- The text after a given first character. -/
def after? (char : Char) : Text -> Option Text
  | [] => none
  | first :: rest => if first = char then some rest else none

/-- A full date of ten characters at the start of a text. -/
def fullDate? (text : Text) : Option (Date × Text) := do
  let (year, text) <- fixedDigits? 4 text
  let text <- after? '-' text
  let (month, text) <- fixedDigits? 2 text
  let text <- after? '-' text
  let (day, text) <- fixedDigits? 2 text
  return (⟨year, month, day⟩, text)

/-- A time of day, with the second of a leap second counted as the sixtieth. -/
structure TimeOfDay where
  hour : Nat
  minute : Nat
  second : Nat
  milli : Nat
  deriving DecidableEq

namespace TimeOfDay

/-- Whether every part is in its range. -/
def isValid (time : TimeOfDay) : Bool :=
  time.hour < 24 && time.minute < 60 && time.second ≤ 60

/-- Milliseconds from the start of the day. -/
def millis (time : TimeOfDay) : Nat :=
  ((time.hour * 60 + time.minute) * 60 + time.second) * 1000 + time.milli

end TimeOfDay

/-- Milliseconds of the fraction of a second after the seconds, if there is
one; digits past the third are cut off. -/
def fractionMillis? : Text -> Option (Nat × Text)
  | '.' :: text =>
      let digits := text.takeWhile Char.isDigit
      if digits.isEmpty then none
      else
        let thousandths := (digits ++ ['0', '0']).take 3
        some (Nat.ofDigitChars 10 thousandths 0, text.dropWhile Char.isDigit)
  | text => some (0, text)

/-- A time of day at the start of a text. -/
def timeOfDay? (text : Text) : Option (TimeOfDay × Text) := do
  let (hour, text) <- fixedDigits? 2 text
  let text <- after? ':' text
  let (minute, text) <- fixedDigits? 2 text
  let text <- after? ':' text
  let (second, text) <- fixedDigits? 2 text
  let (milli, text) <- fractionMillis? text
  return (⟨hour, minute, second, milli⟩, text)

/-- Minutes of a signed offset, whose minutes are below sixty and whose size is
below a day. -/
def offsetSize? (text : Text) : Option (Nat × Text) := do
  let (hours, text) <- fixedDigits? 2 text
  let text <- after? ':' text
  let (minutes, text) <- fixedDigits? 2 text
  if hours < 24 && minutes < 60 then some (hours * 60 + minutes, text)
  else none

/-- Minutes by which local time is ahead of universal time. The sign may also
be the mathematical minus. -/
def offset? : Text -> Option (Int × Text)
  | 'Z' :: rest => some (0, rest)
  | 'z' :: rest => some (0, rest)
  | '+' :: rest =>
      (offsetSize? rest).map fun (minutes, rest) => (minutes, rest)
  | sign :: rest =>
      if sign = '-' || sign = '\u2212' then
        (offsetSize? rest).map fun (minutes, rest) => (-(minutes : Int), rest)
      else
        none
  | [] => none

/-- Whether a character may stand between the date and the time. -/
def isDateTimeSeparator (char : Char) : Bool :=
  char = 'T' || char = 't' || char = ' '

/-- Milliseconds of a timestamp. -/
def timestampMillis? (text : Text) : Option Int := do
  let (date, text) <- fullDate? text
  let (time, text) <-
    match text with
    | separator :: text =>
        if isDateTimeSeparator separator then timeOfDay? text else none
    | [] => none
  let (offset, text) <- offset? text
  if text.isEmpty && date.isValid && time.isValid then
    some (date.dayNumber * millisPerDay + time.millis - offset * 60000)
  else
    none

/-- At least one and at most `most` digits at the start of a text. -/
def someDigits? (most : Nat) (text : Text) : Option (Nat × Text) :=
  let digits := (text.take most).takeWhile Char.isDigit
  (Numeric.readDigits? digits).map fun number =>
    (number, text.drop digits.length)

/-- The year of a plain date: up to four digits, or any number of them after a
sign. -/
def year? : Text -> Option (Int × Text)
  | '-' :: text =>
      (someDigits? text.length text).map fun (year, rest) => (-(year : Int), rest)
  | '+' :: text =>
      (someDigits? text.length text).map fun (year, rest) => (year, rest)
  | text => (someDigits? 4 text).map fun (year, rest) => (year, rest)

/-- A plain date. Blanks may stand before each of its three numbers. -/
def plainDate? (text : Text) : Option Date := do
  let (year, text) <- year? text.trimStart
  let text <- after? '-' text
  let (month, text) <- someDigits? 2 text.trimStart
  let text <- after? '-' text
  let (day, text) <- someDigits? 2 text.trimStart
  let date : Date := ⟨year, month, day⟩
  if text.isEmpty && date.isValid then some date else none

/-- Milliseconds of a timestamp, or of the first instant of a plain date. -/
def millis? (text : Text) : Option Int :=
  timestampMillis? text <|>
    (plainDate? text).map fun date => date.dayNumber * millisPerDay

end Calendar
end CellPreview
