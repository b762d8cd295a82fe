import CellPreview.Entries
import CellPreview.Numeric.Shortest

/-!
# JSON values

A number is an integer of 64 bits, signed or unsigned, or else a finite
binary64 number. An object keeps its fields in order.
-/

namespace CellPreview
namespace Json

/-- A JSON number. -/
inductive Number
  | integer (number : Int)
  | real (number : Numeric.Binary64)
  deriving DecidableEq

/-- A JSON value. -/
inductive Value
  | null
  | bool (truth : Bool)
  | number (number : Number)
  | text (content : Text)
  | list (items : List Value)
  | object (fields : List (Text × Value))

namespace Number

/-- Digits and power of ten of a decimal without its trailing zeros. -/
def trimmedDigits (decimal : Numeric.Decimal) : Text × Int :=
  let digits := Text.ofNat decimal.digits
  let kept := (digits.reverse.dropWhile (· == '0')).reverse
  (kept, decimal.exponent + (digits.length - kept.length : Nat))

/-- Numeral of digits in front of which the point stands after `point` places,
where `point` lies between `-4` and `16`. -/
def positional (digits : Text) (point : Int) : Text :=
  match point with
  | .ofNat places =>
      if places = 0 then "0." ++ digits
      else if places < digits.length then
        digits.take places ++ '.' :: digits.drop places
      else
        digits ++ List.replicate (places - digits.length) '0' ++ ".0"
  | .negSucc places => "0." ++ List.replicate (places + 1) '0' ++ digits

/-- Numeral of digits with the point after the first and a signed exponent. -/
def scientific (digits : Text) (exponent : Int) : Text :=
  let mantissa :=
    match digits with
    | first :: second :: others => first :: '.' :: second :: others
    | _ => digits
  let power :=
    if exponent < 0 then Text.ofInt exponent else '+' :: Text.ofInt exponent
  mantissa ++ 'e' :: power

/-- Numeral of a binary64 number: its shortest decimal, positional from
`10 ^ (-5)` up to but not including `10 ^ 16`, and otherwise with an
exponent. -/
def realText (number : Numeric.Binary64) : Text :=
  let (digits, exponent) := trimmedDigits number.shortest
  let point := exponent + digits.length
  let unsigned : Text :=
    if number.magnitude = 0 then "0.0"
    else if -5 < point && point ≤ 16 then positional digits point
    else scientific digits (point - 1)
  if number.negative then '-' :: unsigned else unsigned

/-- Numeral of a number. -/
def toText : Number -> Text
  | .integer number => Text.ofInt number
  | .real number => realText number

end Number

namespace Value

/-- The content of a text; none for other values. -/
def text? : Value -> Option Text
  | .text content => some content
  | _ => none

end Value

/-- One field. -/
def oneField (name : Text) (value : Value) : List (Text × Value) :=
  [(name, value)]

/-- One field, which holds a text. -/
def textField (name content : Text) : List (Text × Value) :=
  [(name, .text content)]

/-- One field, which holds an object of texts; none when there are no texts. -/
def entriesField (name : Text) (entries : Entries Text) :
    List (Text × Value) :=
  if entries.isEmpty then []
  else
    [(name, .object (entries.map fun (key, content) => (key, .text content)))]

/-- One field, which holds a list; none when the list is empty. -/
def listField (name : Text) (items : List Value) : List (Text × Value) :=
  if items.isEmpty then [] else [(name, .list items)]

end Json
end CellPreview
