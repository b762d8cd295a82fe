import CellPreview.Text.Basic
import CellPreview.Text.Invisible

/-!
# Quoted text in messages

A message shows a text between double quotes. Quotes and backslashes inside are
escaped, the common control characters have short escapes, and every other
invisible character is shown by its code point in braces.
-/

namespace CellPreview
namespace Text

/-- Lowercase hexadecimal numeral of a natural number. -/
def hexadecimal (number : Nat) : Text :=
  Nat.toDigits 16 number

/-- One character as it stands between the quotes. -/
def quotedChar (char : Char) : Text :=
  match char with
  | '\x00' => ['\\', '0']
  | '\t' => ['\\', 't']
  | '\r' => ['\\', 'r']
  | '\n' => ['\\', 'n']
  | '\\' => ['\\', '\\']
  | '"' => ['\\', '"']
  | _ =>
      if isInvisible char then
        ['\\', 'u', '{'] ++ hexadecimal char.toNat ++ ['}']
      else
        [char]

/-- A text between double quotes, with every awkward character escaped. -/
def quoted (text : Text) : Text :=
  '"' :: text.flatMap quotedChar ++ ['"']

end Text
end CellPreview
