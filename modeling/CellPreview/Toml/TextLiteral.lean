import CellPreview.Json.TextLiteral

/-!
# Text literals of TOML

A text stands between double quotes, where a backslash starts an escape, or
between single quotes, where nothing is special. Three quotes on each side make
a literal that may go over several lines: a line break right after the opening
quotes is dropped, every line break counts as one newline, a backslash at the
end of a line joins it to the next word, and one or two quotes may stand right
before the closing ones.
-/

namespace CellPreview
namespace Toml

/-- A reader of the start of a text, which gives back the text after it. -/
abbrev Reading (α : Type) := Text -> Option (α × Text)

/-- Spaces within a line. -/
def isSpace (char : Char) : Bool :=
  char == ' ' || char == '\t'

/-- A text without the spaces at its start. -/
def skipSpaces (text : Text) : Text :=
  text.dropWhile isSpace

/-- Characters that may stand in a comment or between quotes. -/
def isPrintable (char : Char) : Bool :=
  char == '\t' || (0x20 ≤ char.toNat && char.toNat != 0x7F)

/-- The text after a line break. -/
def lineBreak? : Text -> Option Text
  | '\n' :: rest => some rest
  | '\r' :: '\n' :: rest => some rest
  | _ => none

/-- Value of hexadecimal digits, most significant first. -/
def hexNumber? (digits : Text) : Option Nat :=
  digits.foldl
    (fun number digit => do
      return (<- number) * 16 + (<- Json.hexValue? digit))
    (some 0)

/-- The character of a given number of hexadecimal digits. -/
def numericEscape? (count : Nat) (text : Text) : Option (Char × Text) := do
  let digits := text.take count
  let code <- if digits.length = count then hexNumber? digits else none
  if code < 0xD800 || (0xE000 ≤ code && code < 0x110000) then
    some (.ofNat code, text.drop count)
  else
    none

/-- The character of an escape, after the backslash. -/
def escape? : Reading Char
  | 'b' :: rest => some ('\x08', rest)
  | 't' :: rest => some ('\t', rest)
  | 'n' :: rest => some ('\n', rest)
  | 'f' :: rest => some ('\x0c', rest)
  | 'r' :: rest => some ('\r', rest)
  | '"' :: rest => some ('"', rest)
  | '\\' :: rest => some ('\\', rest)
  | 'u' :: rest => numericEscape? 4 rest
  | 'U' :: rest => numericEscape? 8 rest
  | _ => none

/-- Content of a text on one line after its opening quote. No more than `count`
characters and escapes are read. -/
def lineText? (quote : Char) : Nat -> Reading Text
  | 0, _ => none
  | _ + 1, [] => none
  | count + 1, char :: rest =>
      if char = quote then some ([], rest)
      else if char = '\\' && quote = '"' then do
        let (char, rest) <- escape? rest
        let (others, rest) <- lineText? quote count rest
        return (char :: others, rest)
      else if isPrintable char then do
        let (others, rest) <- lineText? quote count rest
        return (char :: others, rest)
      else
        none

/-- A text without the spaces and line breaks at its start. -/
def skipLines : Text -> Text
  | [] => []
  | '\r' :: '\n' :: rest => skipLines rest
  | char :: rest =>
      if char = '\n' || isSpace char then skipLines rest else char :: rest

/-- The next word after a backslash that ends its line. -/
def joinedLine? (text : Text) : Option Text :=
  (lineBreak? (skipSpaces text)).map skipLines

/-- Content of a text on several lines after its opening quotes. No more than
`count` characters, escapes and line breaks are read. -/
def blockText? (quote : Char) : Nat -> Reading Text
  | 0, _ => none
  | _ + 1, [] => none
  | count + 1, char :: rest =>
      if char = quote then
        let run := (char :: rest).takeWhile (· == quote)
        if run.length < 3 then do
          let (others, rest) <- blockText? quote count rest
          return (char :: others, rest)
        else
          let kept := min (run.length - 3) 2
          some (run.take kept, (char :: rest).drop (kept + 3))
      else if char = '\\' && quote = '"' then
        match joinedLine? rest with
        | some rest => blockText? quote count rest
        | none => do
            let (char, rest) <- escape? rest
            let (others, rest) <- blockText? quote count rest
            return (char :: others, rest)
      else
        match lineBreak? (char :: rest) with
        | some rest => do
            let (others, rest) <- blockText? quote count rest
            return ('\n' :: others, rest)
        | none =>
            if isPrintable char then do
              let (others, rest) <- blockText? quote count rest
              return (char :: others, rest)
            else
              none

/-- A text without the line break at its start, if there is one. -/
def dropLineBreak (text : Text) : Text :=
  (lineBreak? text).getD text

/-- A text of either kind, after the first of its opening quotes. -/
def text? (quote : Char) (text : Text) : Option (Text × Text) :=
  match text with
  | second :: third :: rest =>
      if second = quote && third = quote then
        blockText? quote text.length (dropLineBreak rest)
      else
        lineText? quote text.length text
  | _ => lineText? quote text.length text

end Toml
end CellPreview
