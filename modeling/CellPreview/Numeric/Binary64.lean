/-!
# Finite binary64 numbers

A finite binary64 number is a sign and the 63 bits below it, read as a natural
number and called its magnitude. The magnitudes are ordered as the absolute
values they stand for, so comparison needs no arithmetic. Every absolute value
is a whole number of units of `2 ^ (-1074)`; rounding takes an exact quotient
of units to the nearest magnitude, ties to the even one.
-/

namespace CellPreview
namespace Numeric

/-- Nearest natural number to a quotient, a half going to the even
neighbour. -/
def roundHalfEven (numerator denominator : Nat) : Nat :=
  let floor := numerator / denominator
  let rest := numerator % denominator
  if 2 * rest < denominator then floor
  else if denominator < 2 * rest then floor + 1
  else if floor % 2 = 0 then floor
  else floor + 1

namespace Binary64

/-- Number of magnitudes that share an exponent. -/
def stride : Nat := Nat.pow 2 52

/-- First magnitude that is not finite. -/
def limit : Nat := 0x7FF * stride

/-- Units of `2 ^ (-1074)` in the absolute value of a magnitude. -/
def units (magnitude : Nat) : Nat :=
  match magnitude / stride with
  | 0 => magnitude
  | exponent + 1 => (stride + magnitude % stride) * Nat.pow 2 exponent

/-- Magnitude nearest to a quotient of units. The unit of the last place is
fixed by the size of the quotient; a carry out of the last place moves to the
next exponent by itself. -/
def nearest (numerator denominator : Nat) : Nat :=
  let shift := (numerator / denominator).log2 - 52
  shift * stride + roundHalfEven numerator (denominator * Nat.pow 2 shift)

end Binary64

/-- A finite binary64 number. -/
structure Binary64 where
  /-- Whether the sign bit is set. -/
  negative : Bool
  /-- The bits below the sign bit. -/
  magnitude : Nat
  /-- Infinities and values that are not numbers are left out. -/
  finite : magnitude < Binary64.limit
  deriving DecidableEq

namespace Binary64

/-- The number with a given sign and magnitude, if it is finite. -/
def ofMagnitude? (negative : Bool) (magnitude : Nat) : Option Binary64 :=
  if finite : magnitude < limit then some ⟨negative, magnitude, finite⟩
  else none

/-- Zero of either sign. -/
def zero (negative : Bool) : Binary64 :=
  ⟨negative, 0, by decide⟩

/-- The number nearest to a signed quotient, unless it is too large. -/
def ofQuotient? (negative : Bool) (numerator denominator : Nat) :
    Option Binary64 :=
  ofMagnitude? negative (nearest (numerator * Nat.pow 2 1074) denominator)

/-- The number nearest to an integer, unless it is too large. -/
def ofInt? (number : Int) : Option Binary64 :=
  ofQuotient? (number < 0) number.natAbs 1

/-- The encoding as a 64-bit pattern. -/
def bits (number : Binary64) : Nat :=
  (if number.negative then Nat.pow 2 63 else 0) + number.magnitude

/-- Position of a number in the order of values; both zeros are at `0`. -/
def position (number : Binary64) : Int :=
  if number.negative then -(number.magnitude : Int) else number.magnitude

/-- Whether one number is at most another. -/
def atMost (first second : Binary64) : Bool :=
  first.position ≤ second.position

end Binary64
end Numeric
end CellPreview
