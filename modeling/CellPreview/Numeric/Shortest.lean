import CellPreview.Numeric.Decimal

/-!
# Shortest decimals

The decimal shown for a binary64 number has the fewest significant digits that
read back as the number, and among those of that length it is the nearest one.
The exact decimal expansion of the number is cut off at one digit, two digits
and so on, and the two neighbours at the cut are tried, the nearer one first.
-/

namespace CellPreview
namespace Numeric
namespace Binary64

/-- The exact expansion of the absolute value, in units of `10 ^ (-1074)`. -/
def expansion (number : Binary64) : Nat :=
  units number.magnitude * Nat.pow 5 1074

/-- The exact decimal value. -/
def exactDecimal (number : Binary64) : Decimal :=
  ⟨number.negative, number.expansion, -1074⟩

/-- The decimal nearest to the number among those that read back as it and
are multiples of a power of ten in the expansion. -/
def cut? (number : Binary64) (dropped : Nat) : Option Decimal :=
  let scale := Nat.pow 10 dropped
  let below := number.expansion / scale
  let nearer := roundHalfEven number.expansion scale
  let farther := if nearer = below then below + 1 else below
  [nearer, farther].map (Decimal.mk number.negative · (dropped - 1074))
    |>.find? fun decimal => decimal.toBinary64? == some number

/-- The shortest decimal that reads back as the number; seventeen digits are
always enough, and the exact expansion would do otherwise. -/
def shortest (number : Binary64) : Decimal :=
  let length := (Nat.toDigits 10 number.expansion).length
  ((List.range 17).findSome? fun count => number.cut? (length - (count + 1)))
    |>.getD number.exactDecimal

end Binary64
end Numeric
end CellPreview
