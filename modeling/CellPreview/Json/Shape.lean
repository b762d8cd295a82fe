import CellPreview.Json.Reader

/-!
# Values of a wanted shape

Readers for values of which it is known what they must be. Another value is
refused at its start if it is a list or an object, and otherwise after it has
been read, so that a fault inside it comes first.
-/

namespace CellPreview
namespace Json
namespace Shape

/-- How a number is called in a message. -/
def numberName : Number -> Text
  | .integer number => "integer `" ++ Text.ofInt number ++ "`"
  | .real number => "floating point `" ++ Number.realText number ++ "`"

/-- Refuse a value for being of another kind than what is wanted. -/
def refuse (wanted : Text) (count : Nat) : Text -> Except Stop α
  | [] => stop .unfinishedValue [] 0
  | 'n' :: rest => word "null" "ull" rest
  | 't' :: rest => word "boolean `true`" "rue" rest
  | 'f' :: rest => word "boolean `false`" "alse" rest
  | '"' :: rest => do
      let (content, rest) <- textLiteral count rest
      found ("string " ++ content.quoted) rest
  | '[' :: rest => found "sequence" ('[' :: rest)
  | '{' :: rest => found "map" ('{' :: rest)
  | char :: rest =>
      if char = '-' || char.isDigit then do
        let (number, rest) <- number (char :: rest)
        found (numberName number) rest
      else
        stop .valueWanted (char :: rest) 1
where
  /-- Refuse what was found. -/
  found (name rest : Text) : Except Stop α :=
    stop (.mismatch (.kind name wanted)) rest 0
  /-- Refuse a word once all of it is read. -/
  word (name letters rest : Text) : Except Stop α := do
    let ((), rest) <- wordRest () letters rest
    found name rest

/-- A text. -/
def text (count : Nat) : Reading Text := fun text =>
  match skipSpaces text with
  | '"' :: rest => textLiteral count rest
  | rest => refuse "a string" count rest

/-- A list of items. -/
def list (item : Reading α) (count : Nat) : Reading (List α) := fun text =>
  match skipSpaces text with
  | '[' :: rest => items item count true rest
  | rest => refuse "a sequence" count rest

/-- The text after the end of a list whose items have all been read. -/
def listEnd : Reading Unit := fun text =>
  match skipSpaces text with
  | [] => stop .unfinishedList [] 0
  | ']' :: rest => .ok ((), rest)
  | ',' :: rest =>
      match skipSpaces rest with
      | ']' :: rest => stop .trailingComma (']' :: rest) 1
      | rest => stop .trailingCharacters rest 1
  | rest => stop .trailingCharacters rest 1

/-- The text after the closing brace, if it comes next, or else the text that
comes next. -/
def afterBrace (text : Text) : Text :=
  match skipSpaces text with
  | '}' :: rest => rest
  | rest => rest

end Shape
end Json
end CellPreview
