import CellPreview.Numeric.Integer64
import CellPreview.Toml.Table
import CellPreview.Toml.TextLiteral

/-!
# Documents of TOML

A document is read line by line. A line is blank, assigns a value to a name or
is the header of a table; a comment may end it. Texts, integers, empty lists
and inline tables are read, and a document with any other value is not read at
all.
-/

namespace CellPreview
namespace Toml

/-- A text without the comment at its start, if there is one. -/
def skipComment : Text -> Text
  | '#' :: rest => rest.dropWhile isPrintable
  | text => text

/-- The text after the end of a line, which may hold a comment. -/
def lineEnd? (text : Text) : Option Text :=
  match skipComment (skipSpaces text) with
  | [] => some []
  | rest => lineBreak? rest

/-- Whether a character may stand in a name without quotes. -/
def isBare (char : Char) : Bool :=
  char.isAlphanum || char == '_' || char == '-'

/-- A name, with or without quotes. -/
def name? : Reading Text
  | '"' :: rest => lineText? '"' (rest.length + 1) rest
  | '\'' :: rest => lineText? '\'' (rest.length + 1) rest
  | text =>
      let name := text.takeWhile isBare
      if name.isEmpty then none else some (name, text.dropWhile isBare)

/-- Names joined by dots. No more than `count` are read. -/
def path? : Nat -> Reading (List Text)
  | 0, _ => none
  | count + 1, text => do
      let (first, rest) <- name? text
      match skipSpaces rest with
      | '.' :: rest => do
          let (others, rest) <- path? count (skipSpaces rest)
          return (first :: others, rest)
      | rest => return ([first], rest)

/-- Digits of a numeral after the first, among which single underscores may
stand between digits. -/
def moreDigits? (isDigit : Char -> Bool) : Text -> Option (Text × Text)
  | [] => some ([], [])
  | '_' :: next :: rest =>
      if isDigit next then
        (moreDigits? isDigit rest).map fun (digits, rest) =>
          (next :: digits, rest)
      else
        none
  | char :: rest =>
      if isDigit char then
        (moreDigits? isDigit rest).map fun (digits, rest) =>
          (char :: digits, rest)
      else if char = '_' then none
      else some ([], char :: rest)

/-- A numeral of at least one digit. -/
def digits? (isDigit : Char -> Bool) : Reading Text
  | [] => none
  | first :: rest =>
      if isDigit first then
        (moreDigits? isDigit rest).map fun (digits, rest) =>
          (first :: digits, rest)
      else
        none

/-- Value of digits of a base up to sixteen. -/
def digitsValue (base : Nat) (digits : Text) : Nat :=
  digits.foldl
    (fun number digit => number * base + (Json.hexValue? digit).getD 0) 0

/-- Whether a character is a digit of a base up to sixteen. -/
def isDigitOf (base : Nat) (char : Char) : Bool :=
  match Json.hexValue? char with
  | some value => value < base
  | none => false

/-- An integer without sign in a given base. -/
def based? (base : Nat) : Reading Int := fun text => do
  let (digits, rest) <- digits? (isDigitOf base) text
  return ((digitsValue base digits : Int), rest)

/-- A decimal integer without sign, which starts with a zero only if it is
zero. -/
def decimal? : Reading Int
  | '0' :: rest => some (0, rest)
  | text => based? 10 text

/-- An integer of 64 bits. -/
def integer? (text : Text) : Option (Int × Text) := do
  let (number, rest) <-
    match text with
    | '0' :: 'x' :: rest => based? 16 rest
    | '0' :: 'o' :: rest => based? 8 rest
    | '0' :: 'b' :: rest => based? 2 rest
    | '+' :: rest => decimal? rest
    | '-' :: rest => (decimal? rest).map fun (number, rest) => (-number, rest)
    | _ => decimal? text
  if Numeric.fitsInt64 number then some (number, rest) else none

/-- The closing bracket of an empty list, before which spaces, comments and
line breaks may stand. No more than `count` of these are passed over. -/
def emptyList? : Nat -> Text -> Option Text
  | 0, _ => none
  | count + 1, text =>
      match skipSpaces text with
      | ']' :: rest => some rest
      | rest =>
          match lineBreak? (skipComment rest) with
          | some rest => emptyList? count rest
          | none => none

/-- Entries of an inline table up to its closing brace. No more than `count`
are read. -/
def inlineEntries? (value : Reading Item) : Nat -> Table -> Reading Table
  | 0, _ => fun _ => none
  | count + 1, table => fun text => do
      let (name, rest) <- name? (skipSpaces text)
      let rest <-
        match skipSpaces rest with
        | '=' :: rest => some (skipSpaces rest)
        | _ => none
      let (item, rest) <- value rest
      let table <- Table.assign? name item [] true table
      match skipSpaces rest with
      | ',' :: rest => inlineEntries? value count table rest
      | '}' :: rest => return (table, rest)
      | _ => none

/-- An inline table after its opening brace. -/
def inlineTable? (value : Reading Item) (count : Nat) : Reading Table :=
  fun text =>
    match skipSpaces text with
    | '}' :: rest => some ([], rest)
    | rest => inlineEntries? value count [] rest

/-- A value in which tables nest at most `levels` deep, which is no restriction
for a text of at most that length. -/
def value? (count : Nat) : Nat -> Reading Item
  | 0 => fun _ => none
  | levels + 1 => fun text =>
      match text with
      | '"' :: rest =>
          (text? '"' rest).map fun (content, rest) => (.text content, rest)
      | '\'' :: rest =>
          (text? '\'' rest).map fun (content, rest) => (.text content, rest)
      | '[' :: rest =>
          (emptyList? count rest).map fun rest => (.emptyList, rest)
      | '{' :: rest =>
          (inlineTable? (value? count levels) count rest).map
            fun (table, rest) => (.table .inline table, rest)
      | _ => (integer? text).map fun (number, rest) => (.integer number, rest)

/-- What a line says. -/
inductive Line
  | blank
  | assignment (path : List Text) (name : Text) (item : Item)
  | header (path : List Text)

/-- The header of a table after its opening bracket. -/
def header? (count : Nat) : Reading Line := fun text => do
  let (path, rest) <- path? count (skipSpaces text)
  match skipSpaces rest with
  | ']' :: rest => return (.header path, rest)
  | _ => none

/-- An assignment. -/
def assignment? (count : Nat) : Reading Line := fun text => do
  let (path, rest) <- path? count text
  let rest <-
    match skipSpaces rest with
    | '=' :: rest => some (skipSpaces rest)
    | _ => none
  let (item, rest) <- value? count count rest
  let name <- path.getLast?
  return (.assignment path.dropLast name item, rest)

/-- A line and its end. -/
def line? (count : Nat) : Reading Line := fun text =>
  let text := skipSpaces text
  match lineEnd? text with
  | some rest => some (.blank, rest)
  | none => do
      let (line, rest) <-
        match text with
        | '[' :: rest => header? count rest
        | _ => assignment? count text
      return (line, <- lineEnd? rest)

/-- Lines up to the end of a document. No more than `count` are read. -/
def lines? (length : Nat) : Nat -> Text -> Option (List Line)
  | _, [] => some []
  | 0, _ :: _ => none
  | count + 1, char :: text => do
      let (line, rest) <- line? length (char :: text)
      let others <- lines? length count rest
      return line :: others

/-- The table of a document whose last header names `current`. -/
def build? : List Line -> List Text -> Table -> Option Table
  | [], _, table => some table
  | .blank :: others, current, table => build? others current table
  | .header path :: others, _, table => do
      build? others path (<- Table.state? path table)
  | .assignment path name item :: others, current, table => do
      let change := Table.assign? name item path true
      build? others current (<- Table.within? change current table)

/-- A text without a byte order mark at its start. -/
def dropMark : Text -> Text
  | [] => []
  | first :: rest => if first = '\uFEFF' then rest else first :: rest

/-- The table of a document. -/
def read? (text : Text) : Option Table := do
  let text := dropMark text
  let count := text.length + 1
  build? (<- lines? count count text) [] []

end Toml
end CellPreview
