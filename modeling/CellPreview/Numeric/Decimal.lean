import CellPreview.Numeric.Binary64
import CellPreview.Numeric.Integer64

/-!
# Decimal numerals

A decimal is a sign, a natural number of digits and a power of ten, kept
exactly. It is read from a numeral in positional or exponent notation and
rounded once, to the nearest binary64 number.
-/

namespace CellPreview
namespace Numeric

/-- The decimal `digits * 10 ^ exponent` with a sign. -/
structure Decimal where
  negative : Bool
  digits : Nat
  exponent : Int
  deriving DecidableEq

namespace Decimal

/-- The decimal written with the digits of a whole part and a fraction. -/
def ofParts (negative : Bool) (whole fraction : Text) (exponent : Int) :
    Decimal where
  negative := negative
  digits := Nat.ofDigitChars 10 (whole ++ fraction) 0
  exponent := exponent - fraction.length

/-- Power of ten just above the absolute value of a nonzero decimal. -/
def leading (decimal : Decimal) : Int :=
  decimal.exponent + (Nat.toDigits 10 decimal.digits).length

/-- The nearest binary64 number, unless the decimal is too large. The two
bounds on the leading power only keep the exact quotient small: beyond them
every decimal is too large, or below half of the least positive number. -/
def toBinary64? (decimal : Decimal) : Option Binary64 :=
  if decimal.digits = 0 then some (.zero decimal.negative)
  else if 310 < decimal.leading then none
  else if decimal.leading < -330 then some (.zero decimal.negative)
  else
    match decimal.exponent with
    | .ofNat power =>
        Binary64.ofQuotient? decimal.negative
          (decimal.digits * Nat.pow 10 power) 1
    | .negSucc power =>
        Binary64.ofQuotient? decimal.negative decimal.digits
          (Nat.pow 10 (power + 1))

/-- Sign and remaining text of a numeral. -/
def readSign : Text -> Bool × Text
  | '-' :: rest => (true, rest)
  | '+' :: rest => (false, rest)
  | text => (false, text)

/-- The exponent after the mantissa of a numeral, read to the end. -/
def readExponent? : Text -> Option Int
  | [] => some 0
  | 'e' :: rest => readInteger? rest
  | 'E' :: rest => readInteger? rest
  | _ => none

/-- The decimal of a whole text: an optional sign, digits with at most one
point and at least one digit, and an optional exponent. -/
def read? (text : Text) : Option Decimal :=
  let (negative, unsigned) := readSign text
  let whole := unsigned.takeWhile Char.isDigit
  let afterWhole := unsigned.dropWhile Char.isDigit
  let (fraction, afterFraction) :=
    match afterWhole with
    | '.' :: rest => (rest.takeWhile Char.isDigit, rest.dropWhile Char.isDigit)
    | _ => ([], afterWhole)
  if whole.isEmpty && fraction.isEmpty then none
  else
    (readExponent? afterFraction).map fun exponent =>
      ofParts negative whole fraction exponent

end Decimal
end Numeric
end CellPreview
