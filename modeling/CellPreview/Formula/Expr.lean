import CellPreview.Formula.Error

/-!
# Expressions

The tree of a parsed formula. A piece of source that has no meaning is kept in
the tree with its cause, so that it only matters when it is evaluated.
-/

namespace CellPreview
namespace Formula

/-- Comparison operators. -/
inductive Comparison
  | equal
  | atMost
  | atLeast
  deriving DecidableEq

namespace Comparison

/-- The operator as it is written. -/
def symbol : Comparison -> Text
  | .equal => ['=', '=']
  | .atMost => ['<', '=']
  | .atLeast => ['>', '=']

end Comparison

/-- A parsed formula. -/
inductive Expr
  | text (content : Text)
  | number (numeral : Text)
  | field
  | now
  | concat (parts : List Expr)
  | add (left right : Expr)
  | compare (operator : Comparison) (left right : Expr)
  | choose (condition whenTrue otherwise : Expr)
  | invalid (source : Text) (cause : Error)

namespace Expr

/-- Whether a numeral is an integer: digits after an optional minus sign. -/
def isIntegerNumeral (numeral : Text) : Bool :=
  let digits :=
    match numeral with
    | '-' :: rest => rest
    | _ => numeral
  !digits.isEmpty && digits.all Char.isDigit

/-- Whether an operand takes part in integer addition. -/
def isInteger : Expr -> Bool
  | .now => true
  | .number numeral => isIntegerNumeral numeral
  | _ => false

/-- The value of operands joined by plus signs: a single operand is itself, two
integers are added, and everything else is concatenated. -/
def sum (first : Expr) (others : List Expr) : Expr :=
  match others with
  | [] => first
  | [second] =>
      if first.isInteger && second.isInteger then .add first second
      else .concat [first, second]
  | _ => .concat (first :: others)

@[simp] theorem sum_nil (first : Expr) : first.sum [] = first := rfl

end Expr
end Formula
end CellPreview
