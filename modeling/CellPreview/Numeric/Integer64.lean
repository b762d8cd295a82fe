import CellPreview.Text.Basic

/-!
# Integers of 64 bits

Formula arithmetic and evaluation instants live in the signed 64-bit range. A
numeral outside that range is not read at all, and a sum outside it is not
computed.
-/

namespace CellPreview
namespace Numeric

/-- Whether an integer lies in the signed 64-bit range. -/
def fitsInt64 (number : Int) : Bool :=
  -0x8000000000000000 ≤ number && number < 0x8000000000000000

/-- Whether a natural number lies in the unsigned 64-bit range. -/
def fitsUInt64 (number : Nat) : Bool :=
  number < 0x10000000000000000

/-- Value of a nonempty run of decimal digits. -/
def readDigits? (text : Text) : Option Nat :=
  if !text.isEmpty && text.all Char.isDigit then
    some (Nat.ofDigitChars 10 text 0)
  else
    none

/-- Integer of a numeral with an optional sign, of any size. -/
def readInteger? : Text -> Option Int
  | '-' :: digits => (readDigits? digits).map fun number => -(number : Int)
  | '+' :: digits => (readDigits? digits).map Int.ofNat
  | digits => (readDigits? digits).map Int.ofNat

/-- Integer of a numeral with an optional sign, within the signed range. -/
def readInt64? (text : Text) : Option Int :=
  (readInteger? text).filter fitsInt64

end Numeric
end CellPreview
