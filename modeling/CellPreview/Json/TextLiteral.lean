import CellPreview.Json.Numeral

/-!
# Reading JSON texts

A text literal is read from the character after its opening quote. Characters
that need no escape are taken in runs. A character above the basic plane is
escaped as two units, and half of such a pair is refused.
-/

namespace CellPreview
namespace Json

/-- Value of a hexadecimal digit. -/
def hexValue? (char : Char) : Option Nat :=
  if char.isDigit then some (char.toNat - '0'.toNat)
  else if 'a' ≤ char && char ≤ 'f' then some (char.toNat - 'a'.toNat + 10)
  else if 'A' ≤ char && char ≤ 'F' then some (char.toNat - 'A'.toNat + 10)
  else none

/-- Whether a character stands for itself in a text literal. -/
def isPlain (char : Char) : Bool :=
  char != '"' && char != '\\' && 0x20 ≤ char.toNat

/-- Character of an escape of one letter. -/
def shortEscape? : Char -> Option Char
  | '"' => some '"'
  | '\\' => some '\\'
  | '/' => some '/'
  | 'b' => some '\x08'
  | 'f' => some '\x0c'
  | 'n' => some '\n'
  | 'r' => some '\r'
  | 't' => some '\t'
  | _ => none

/-- Value of four hexadecimal digits, if they are all there. -/
def fourDigits? : Text -> Option (Nat × Text)
  | first :: second :: third :: fourth :: rest => do
      let first <- hexValue? first
      let second <- hexValue? second
      let third <- hexValue? third
      let fourth <- hexValue? fourth
      return (((first * 16 + second) * 16 + third) * 16 + fourth, rest)
  | _ => none

/-- One unit of a numeric escape. Fewer than four bytes are an unfinished
text, and four others an invalid escape. -/
def escapeUnit : Reading Nat := fun text =>
  match fourDigits? text with
  | some result => .ok result
  | none =>
      if Text.byteLength (text.take 4) < 4 then stop .unfinishedText [] 0
      else stop .invalidEscape text 4

/-- Whether a unit is the first of a pair. -/
def isLeading (unit : Nat) : Bool :=
  0xD800 ≤ unit && unit ≤ 0xDBFF

/-- Whether a unit is the second of a pair. -/
def isTrailing (unit : Nat) : Bool :=
  0xDC00 ≤ unit && unit ≤ 0xDFFF

/-- The start of the second unit of a pair. -/
def secondUnit : Reading Nat
  | [] => stop .unfinishedText [] 0
  | '\\' :: rest =>
      match rest with
      | [] => stop .unfinishedText [] 0
      | 'u' :: rest => escapeUnit rest
      | _ => stop .unfinishedEscape rest 1
  | rest => stop .unfinishedEscape rest 1

/-- The character of a numeric escape, after its letter. -/
def numericEscape : Reading Char := fun text => do
  let (unit, rest) <- escapeUnit text
  if isTrailing unit then stop .loneSurrogate rest 0
  else if isLeading unit then do
    let (second, rest) <- secondUnit rest
    if isTrailing second then
      return (.ofNat ((unit - 0xD800) * 0x400 + (second - 0xDC00) + 0x10000),
        rest)
    else
      stop .loneSurrogate rest 0
  else
    return (.ofNat unit, rest)

/-- The character of an escape, after the backslash. -/
def escape : Reading Char
  | [] => stop .unfinishedText [] 0
  | 'u' :: rest => numericEscape rest
  | letter :: rest =>
      match shortEscape? letter with
      | some char => .ok (char, rest)
      | none => stop .invalidEscape (letter :: rest) 1

/-- Content of a text literal after its opening quote. There are no more than
`count` escapes in it, which is no restriction for a text of at most that
length. -/
def textLiteral : Nat -> Reading Text
  | 0, _ => stop .unfinishedText [] 0
  | count + 1, text =>
      let run := text.takeWhile isPlain
      match text.dropWhile isPlain with
      | [] => stop .unfinishedText [] 0
      | '"' :: rest => .ok (run, rest)
      | '\\' :: rest => do
          let (char, rest) <- escape rest
          let (others, rest) <- textLiteral count rest
          return (run ++ char :: others, rest)
      | rest => stop .controlCharacter rest 1

end Json
end CellPreview
