import CellPreview.Text.Basic

/-!
# Tokens of a formula

A token records what it is, where it starts, the blanks before it and the
characters it was read from. A run of tokens therefore carries its own source:
the characters from the start of the first token to the end of the last.
-/

namespace CellPreview
namespace Formula

/-- Name of the current field value. -/
def fieldName : Text := "currentField"

/-- Name of the evaluation instant. -/
def nowName : Text := "now"

/-- Kinds of tokens. -/
inductive Token.Kind
  | text (content : Text)
  | number (numeral : Text)
  | field
  | now
  | reference (name : Text)
  | word (name : Text)
  | leftParen
  | rightParen
  | comma
  | plus
  | equals
  | atMost
  | atLeast
  | stray (char : Char)
  deriving DecidableEq

/-- A token with its place in the source. -/
structure Token where
  kind : Token.Kind
  /-- Byte offset of the first character. -/
  start : Nat
  /-- Blanks between the token before and this one. -/
  gap : Text
  /-- Characters the token was read from. -/
  lexeme : Text
  deriving DecidableEq

namespace Token

/-- Byte offset just past the last character. -/
def stop (token : Token) : Nat :=
  token.start + token.lexeme.byteLength

/-- How a token of this kind is shown in a message. -/
def Kind.shown : Kind -> Text
  | .text content => '\'' :: content ++ ['\'']
  | .number numeral => numeral
  | .field => '@' :: fieldName
  | .now => '@' :: nowName
  | .reference name => '@' :: name
  | .word name => name
  | .leftParen => ['(']
  | .rightParen => [')']
  | .comma => [',']
  | .plus => ['+']
  | .equals => ['=', '=']
  | .atMost => ['<', '=']
  | .atLeast => ['>', '=']
  | .stray char => [char]

/-- Source of a run of tokens, without the blanks before the first. -/
def source : List Token -> Text
  | [] => []
  | first :: others =>
      first.lexeme ++ others.flatMap fun token => token.gap ++ token.lexeme

@[simp] theorem source_nil : source [] = [] := rfl

@[simp] theorem source_cons (first : Token) (others : List Token) :
    source (first :: others) =
      first.lexeme ++ others.flatMap fun token => token.gap ++ token.lexeme :=
  rfl

end Token
end Formula
end CellPreview
