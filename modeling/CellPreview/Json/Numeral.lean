import CellPreview.Json.Fault
import CellPreview.Json.Value

/-!
# Reading JSON numerals

A numeral is taken apart first: its sign, the digits before and after the point
and the exponent. Its value is an integer when it is written as one and fits 64
bits, and otherwise the binary64 number nearest to it, as far as its leading
digits tell. A numeral too large for a finite number is refused.
-/

namespace CellPreview
namespace Json

/-- A reader of the start of a text, which gives back the text after it. -/
abbrev Reading (α : Type) := Text -> Except Stop (α × Text)

/-- Give up at the start of the remaining text, after `seen` bytes of it. -/
def stop (cause : Cause) (rest : Text) (seen : Nat) : Except Stop α :=
  .error ⟨cause, rest, seen⟩

/-- Whether a text starts with a decimal digit. -/
def startsWithDigit : Text -> Bool
  | [] => false
  | char :: _ => char.isDigit

/-- The parts of a numeral. -/
structure Numeral where
  negative : Bool
  whole : Text
  /-- Digits after the point, if there is one. -/
  fraction : Option Text
  /-- Sign and digits of the exponent, if there is one. -/
  exponent : Option (Bool × Text)
  deriving DecidableEq

namespace Numeral

/-- Largest size of an exponent whose digits are all taken into account. -/
def exponentLimit : Nat := 0x7FFFFFFF

/-- Digits before the point. A zero stands alone. A text that ends too early is
refused for the reason `ended`. -/
def readWhole (ended : Cause) : Reading Text
  | [] => stop ended [] 0
  | '0' :: rest =>
      if startsWithDigit rest then stop .invalidNumber rest 1
      else .ok (['0'], rest)
  | text =>
      if startsWithDigit text then
        .ok (text.takeWhile Char.isDigit, text.dropWhile Char.isDigit)
      else
        stop .invalidNumber text 1

/-- One digit or more. -/
def readDigits (ended : Cause) : Reading Text
  | [] => stop ended [] 0
  | text =>
      if startsWithDigit text then
        .ok (text.takeWhile Char.isDigit, text.dropWhile Char.isDigit)
      else
        stop .invalidNumber text 1

/-- A point and the digits after it, if there is one. -/
def readFraction (ended : Cause) : Reading (Option Text)
  | '.' :: rest => do
      let (digits, rest) <- readDigits ended rest
      return (some digits, rest)
  | text => .ok (none, text)

/-- An exponent, if there is one. -/
def readExponent (ended : Cause) : Reading (Option (Bool × Text))
  | first :: rest =>
      if first = 'e' || first = 'E' then do
        let (negative, rest) :=
          match rest with
          | '-' :: rest => (true, rest)
          | '+' :: rest => (false, rest)
          | _ => (false, rest)
        let (digits, rest) <- readDigits ended rest
        return (some (negative, digits), rest)
      else
        .ok (none, first :: rest)
  | [] => .ok (none, [])

/-- The parts of a numeral at the start of a text. -/
def read (ended : Cause) : Reading Numeral := fun text => do
  let (negative, text) :=
    match text with
    | '-' :: rest => (true, rest)
    | _ => (false, text)
  let (whole, text) <- readWhole ended text
  let (fraction, text) <- readFraction ended text
  let (exponent, text) <- readExponent ended text
  return (⟨negative, whole, fraction, exponent⟩, text)

/-- Digits of an exponent after those that take its size past the limit, if it
goes past it. -/
def pastLimit? (size : Nat) : Text -> Option Text
  | [] => none
  | digit :: others =>
      let size := 10 * size + (digit.toNat - '0'.toNat)
      if exponentLimit < size then some others else pastLimit? size others

/-- Exponent of a numeral, zero if none is written. -/
def power (numeral : Numeral) : Int :=
  match numeral.exponent with
  | none => 0
  | some (negative, digits) =>
      let size := Nat.ofDigitChars 10 digits 0
      if negative then -(size : Int) else size

/-- Number of leading digits that are read one by one. Halfway points between
binary64 numbers have fewer, so what follows matters only for telling a number
from such a point. -/
def exactDigits : Nat := 768

/-- Digits of which all after the first `exactDigits`, if there are any, are
taken for a single one. -/
def condensed (digits : Text) : Text :=
  if digits.length ≤ exactDigits then digits
  else digits.take exactDigits ++ ['1']

/-- The decimal that a numeral is rounded from. Zeros that end the fraction and
zeros in front of all other digits are no digits of it. Zeros that end a whole
part are, and may be condensed, so that a halfway point written with too many
of them is taken to lie just above itself. -/
def decimal (numeral : Numeral) : Numeric.Decimal :=
  let fraction :=
    ((numeral.fraction.getD []).reverse.dropWhile (· == '0')).reverse
  let digits := (numeral.whole ++ fraction).dropWhile (· == '0')
  { negative := numeral.negative
    digits := Nat.ofDigitChars 10 (condensed digits) 0
    exponent :=
      numeral.power - fraction.length + digits.length -
        (condensed digits).length }

/-- The integer of a numeral without point and exponent, if it fits 64 bits. A
negative zero is no integer. -/
def integer? (numeral : Numeral) : Option Int :=
  match numeral.fraction, numeral.exponent with
  | none, none =>
      let size := Nat.ofDigitChars 10 numeral.whole 0
      if numeral.negative then
        if 0 < size && size ≤ 0x8000000000000000 then some (-(size : Int)) else none
      else
        if Numeric.fitsUInt64 size then some size else none
  | _, _ => none

/-- The binary64 number of a numeral that `rest` follows. An exponent past the
limit is refused as soon as it gets there, or makes the number zero. -/
def real (numeral : Numeral) (rest : Text) :
    Except Stop Numeric.Binary64 :=
  let rounded : Except Stop Numeric.Binary64 :=
    match numeral.decimal.toBinary64? with
    | some number => .ok number
    | none => stop .numberOutOfRange rest 0
  match numeral.exponent with
  | none => rounded
  | some (negative, digits) =>
      match pastLimit? 0 digits with
      | none => rounded
      | some others =>
          if negative || numeral.decimal.digits = 0 then
            .ok (.zero numeral.negative)
          else
            stop .numberOutOfRange (others ++ rest) 0

end Numeral

/-- A number at the start of a text. -/
def number : Reading Number := fun text => do
  let (numeral, rest) <- Numeral.read .unfinishedValue text
  match numeral.integer? with
  | some number => return (.integer number, rest)
  | none => do
      let number <- numeral.real rest
      return (.real number, rest)

end Json
end CellPreview
