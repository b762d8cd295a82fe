import CellPreview.Calendar.Reading
import CellPreview.Formula.Expr
import CellPreview.Numeric.Decimal

/-!
# Arithmetic and comparison of values

Values are texts. Addition reads both operands as 64-bit integers; the ordering
comparisons read them as numbers, where a date or a timestamp counts as its
milliseconds. An operand that cannot be read so is an anomaly, reported beside
the best result that is left.
-/

namespace CellPreview
namespace Formula

/-- Something that went wrong in an evaluation and was recovered from. -/
inductive Anomaly
  | malformed (source : Text) (cause : Error)
  | notNumeric (operator : Comparison) (left right : Text)
  | notComparison
  | overflow (left right : Text)
  deriving DecidableEq

namespace Anomaly

/-- Wording of an anomaly. -/
def message : Anomaly -> Text
  | .malformed source cause =>
      "malformed expression " ++ source.quoted ++ ": " ++ cause.message
  | .notNumeric operator left right =>
      operator.symbol ++ " needs numeric operands, got " ++ left.quoted ++
        " and " ++ right.quoted
  | .notComparison => "condition is not a comparison"
  | .overflow left right =>
      left ++ " + " ++ right ++ " does not fit a 64-bit integer"

end Anomaly

/-- Numeral of the sum of two integers, if both and the sum fit. -/
def addIntegers (left right : Text) : Except Anomaly Text :=
  match Numeric.readInt64? left, Numeric.readInt64? right with
  | some first, some second =>
      if Numeric.fitsInt64 (first + second) then
        .ok (Text.ofInt (first + second))
      else
        .error (.overflow left right)
  | _, _ => .error (.overflow left right)

/-- The number that a value stands for in an ordering: a decimal numeral, or
the milliseconds of a date or timestamp, with blanks around it ignored. -/
def number? (value : Text) : Option Numeric.Binary64 :=
  let trimmed := value.trim
  match Numeric.Decimal.read? trimmed with
  | some decimal => decimal.toBinary64?
  | none => (Calendar.millis? trimmed).bind Numeric.Binary64.ofInt?

namespace Comparison

/-- Whether a comparison holds of two values, and the anomaly of an ordering
between values that are not both numbers. -/
def decide (operator : Comparison) (left right : Text) :
    Bool × Option Anomaly :=
  match operator with
  | .equal => (left == right, none)
  | .atMost => ordered fun first second => first.atMost second
  | .atLeast => ordered fun first second => second.atMost first
where
  /-- An ordering between two values. -/
  ordered (relation : Numeric.Binary64 -> Numeric.Binary64 -> Bool) :
      Bool × Option Anomaly :=
    match number? left, number? right with
    | some first, some second => (relation first second, none)
    | _, _ => (false, some (.notNumeric operator left right))

end Comparison
end Formula
end CellPreview
