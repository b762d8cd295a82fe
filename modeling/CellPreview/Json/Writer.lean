import CellPreview.Json.Value
import CellPreview.Text.Quoted

/-!
# Writing JSON

A value is written either without any spaces, or over several lines with two
spaces for each level and one item to a line. Quotes, backslashes and control
characters of a text are escaped and nothing else is.
-/

namespace CellPreview
namespace Json

/-- A hexadecimal digit, in lowercase. -/
def hexDigit (value : Nat) : Char :=
  Nat.digitChar value

/-- One character of a text between its quotes. -/
def escapedChar (char : Char) : Text :=
  match char with
  | '"' => ['\\', '"']
  | '\\' => ['\\', '\\']
  | '\n' => ['\\', 'n']
  | '\r' => ['\\', 'r']
  | '\t' => ['\\', 't']
  | '\x08' => ['\\', 'b']
  | '\x0c' => ['\\', 'f']
  | _ =>
      if char.toNat < 0x20 then
        ['\\', 'u', '0', '0', hexDigit (char.toNat / 16),
          hexDigit (char.toNat % 16)]
      else
        [char]

/-- A text between its quotes. -/
def quotedText (content : Text) : Text :=
  '"' :: content.flatMap escapedChar ++ ['"']

/-- A newline and the indentation of a level. -/
def newLine (level : Nat) : Text :=
  '\n' :: List.replicate (2 * level) ' '

namespace Value

mutual

/-- A value without spaces. -/
def compact : Value -> Text
  | .null => "null"
  | .bool truth => if truth then "true" else "false"
  | .number numeral => numeral.toText
  | .text content => quotedText content
  | .list items => '[' :: compactItems items
  | .object fields => '{' :: compactFields fields

/-- Items of a list, up to its end. -/
def compactItems : List Value -> Text
  | [] => [']']
  | item :: others => item.compact ++ compactMoreItems others

/-- Items after the first. -/
def compactMoreItems : List Value -> Text
  | [] => [']']
  | item :: others => ',' :: item.compact ++ compactMoreItems others

/-- Fields of an object, up to its end. -/
def compactFields : List (Text × Value) -> Text
  | [] => ['}']
  | (name, value) :: others =>
      quotedText name ++ ':' :: value.compact ++ compactMoreFields others

/-- Fields after the first. -/
def compactMoreFields : List (Text × Value) -> Text
  | [] => ['}']
  | (name, value) :: others =>
      ',' :: quotedText name ++ ':' :: value.compact ++
        compactMoreFields others

end

mutual

/-- A value over several lines, inside of `level` others. -/
def prettyAt (level : Nat) : Value -> Text
  | .null => "null"
  | .bool truth => if truth then "true" else "false"
  | .number numeral => numeral.toText
  | .text content => quotedText content
  | .list items => '[' :: prettyItems level items
  | .object fields => '{' :: prettyFields level fields

/-- Items of a list inside of `level` others, up to its end. -/
def prettyItems (level : Nat) : List Value -> Text
  | [] => [']']
  | item :: others =>
      newLine (level + 1) ++ item.prettyAt (level + 1) ++
        prettyMoreItems level others

/-- Items after the first. -/
def prettyMoreItems (level : Nat) : List Value -> Text
  | [] => newLine level ++ [']']
  | item :: others =>
      ',' :: newLine (level + 1) ++ item.prettyAt (level + 1) ++
        prettyMoreItems level others

/-- Fields of an object inside of `level` others, up to its end. -/
def prettyFields (level : Nat) : List (Text × Value) -> Text
  | [] => ['}']
  | (name, value) :: others =>
      newLine (level + 1) ++ quotedText name ++ ": " ++
        value.prettyAt (level + 1) ++ prettyMoreFields level others

/-- Fields after the first. -/
def prettyMoreFields (level : Nat) : List (Text × Value) -> Text
  | [] => newLine level ++ ['}']
  | (name, value) :: others =>
      ',' :: newLine (level + 1) ++ quotedText name ++ ": " ++
        value.prettyAt (level + 1) ++ prettyMoreFields level others

end

/-- A value over several lines. -/
def pretty (value : Value) : Text :=
  value.prettyAt 0

end Value
end Json
end CellPreview
