import CellPreview.Text.Quoted

/-!
# Causes of malformed formulas

The reasons for which a piece of a formula has no meaning. Offsets count bytes
from the start of the formula body.
-/

namespace CellPreview
namespace Formula

/-- Why a piece of a formula is malformed. -/
inductive Error
  | unterminatedText (offset : Nat)
  | unexpected (found : Text) (offset : Nat)
  | unexpectedEnd
  | unclosed (offset : Nat)
  | tooFewArguments (found : Nat)
  | unknownReference (name : Text) (offset : Nat)
  | empty
  | tooDeep (limit : Nat)
  deriving DecidableEq

namespace Error

/-- Wording of a cause. -/
def message : Error -> Text
  | .unterminatedText offset =>
      "unterminated string literal starting at " ++ Text.ofNat offset
  | .unexpected found offset =>
      "unexpected " ++ found.quoted ++ " at " ++ Text.ofNat offset
  | .unexpectedEnd => "unexpected end of expression"
  | .unclosed offset => "unclosed parenthesis at " ++ Text.ofNat offset
  | .tooFewArguments found =>
      "\"if\" expects at least 3 arguments, found " ++ Text.ofNat found
  | .unknownReference name offset =>
      "unknown variable " ++ name.quoted ++ " at " ++ Text.ofNat offset
  | .empty => "empty expression"
  | .tooDeep limit =>
      "expression nests deeper than " ++ Text.ofNat limit ++ " levels"

end Error
end Formula
end CellPreview
