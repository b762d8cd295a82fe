import CellPreview.Json.TextLiteral

/-!
# Reading JSON

A value is read from the start of a text, and what stands between the brackets
of a list or the braces of an object is read one level further in. At the
innermost level there is no reader for that any more, which bounds the nesting.
Reading stops at the first fault.
-/

namespace CellPreview
namespace Json

/-- Spaces between the parts of a JSON text. -/
def isSpace (char : Char) : Bool :=
  char == ' ' || char == '\n' || char == '\t' || char == '\r'

/-- A text without the spaces at its start. -/
def skipSpaces (text : Text) : Text :=
  text.dropWhile isSpace

/-- Lists and objects nest at most this deep. -/
def nestingLimit : Nat := 127

/-- The remaining letters of a word of which the first was recognised. -/
def wordRest (value : α) : Text -> Reading α
  | [], rest => .ok (value, rest)
  | _ :: _, [] => stop .unfinishedValue [] 0
  | wanted :: others, char :: rest =>
      if char = wanted then wordRest value others rest
      else stop .identifierWanted (char :: rest) 1

/-- What stands before an item of a list: nothing before the first item and a
comma before the others. Tells whether there is an item, and gives back the
text after the closing bracket if there is none. -/
def itemStart (isFirst : Bool) : Reading Bool := fun text =>
  match skipSpaces text with
  | [] => stop .unfinishedList [] 0
  | ']' :: rest => .ok (false, rest)
  | char :: rest =>
      if isFirst then .ok (true, char :: rest)
      else if char = ',' then
        match skipSpaces rest with
        | [] => stop .unfinishedValue [] 0
        | ']' :: rest => stop .trailingComma (']' :: rest) 1
        | rest => .ok (true, rest)
      else
        stop .listEndWanted (char :: rest) 1

/-- Items of a list up to the closing bracket. No more than `count` are read,
which is no restriction for a text of at most that length. -/
def items (item : Reading α) : Nat -> Bool -> Reading (List α)
  | 0, _ => fun text => stop .unfinishedList text 0
  | count + 1, isFirst => fun text => do
      match <- itemStart isFirst text with
      | (false, rest) => return ([], rest)
      | (true, rest) => do
          let (next, rest) <- item rest
          let (others, rest) <- items item count false rest
          return (next :: others, rest)

/-- The name of a field at the start of a text. -/
def fieldName (count : Nat) : Reading Text
  | '"' :: rest => textLiteral count rest
  | rest => stop .keyNotText rest 1

/-- What stands before the colon of a field: a comma unless it is the first
field, and its name. There is no name at the closing brace, and the text after
the brace is given back. -/
def fieldStart (count : Nat) (isFirst : Bool) : Reading (Option Text) :=
  fun text =>
    match skipSpaces text with
    | [] => stop .unfinishedObject [] 0
    | '}' :: rest => .ok (none, rest)
    | char :: rest =>
        if isFirst then do
          let (name, rest) <- fieldName count (char :: rest)
          return (some name, rest)
        else if char = ',' then
          match skipSpaces rest with
          | [] => stop .unfinishedValue [] 0
          | '}' :: rest => stop .trailingComma ('}' :: rest) 1
          | rest => do
              let (name, rest) <- fieldName count rest
              return (some name, rest)
        else
          stop .objectEndWanted (char :: rest) 1

/-- The colon after the name of a field. -/
def colon : Reading Unit := fun text =>
  match skipSpaces text with
  | [] => stop .unfinishedObject [] 0
  | ':' :: rest => .ok ((), rest)
  | rest => stop .colonWanted rest 1

/-- Fields of an object up to the closing brace. No more than `count` are read,
which is no restriction for a text of at most that length, as `length` is. -/
def fields (value : Reading α) (length : Nat) :
    Nat -> Bool -> Reading (List (Text × α))
  | 0, _ => fun text => stop .unfinishedObject text 0
  | count + 1, isFirst => fun text => do
      match <- fieldStart length isFirst text with
      | (none, rest) => return ([], rest)
      | (some name, rest) => do
          let ((), rest) <- colon rest
          let (next, rest) <- value rest
          let (others, rest) <- fields value length count false rest
          return ((name, next) :: others, rest)

/-- A value whose first character is at the start of the text. `inner` reads
the values one level further in, and is missing at the innermost level. -/
def valueHere (inner : Option (Reading Value)) (count : Nat) : Reading Value
  | [] => stop .unfinishedValue [] 0
  | 'n' :: rest => wordRest .null "ull" rest
  | 't' :: rest => wordRest (.bool true) "rue" rest
  | 'f' :: rest => wordRest (.bool false) "alse" rest
  | '"' :: rest => do
      let (content, rest) <- textLiteral count rest
      return (.text content, rest)
  | '[' :: rest =>
      match inner with
      | none => stop .tooDeep ('[' :: rest) 1
      | some value => do
          let (items, rest) <- items value count true rest
          return (.list items, rest)
  | '{' :: rest =>
      match inner with
      | none => stop .tooDeep ('{' :: rest) 1
      | some value => do
          let (fields, rest) <- fields value count count true rest
          return (.object (Entries.ofPairs fields), rest)
  | char :: rest =>
      if char = '-' || char.isDigit then do
        let (number, rest) <- number (char :: rest)
        return (.number number, rest)
      else
        stop .valueWanted (char :: rest) 1

/-- A value in which lists and objects nest at most `levels` deep. -/
def value (count : Nat) : Nat -> Reading Value
  | 0 => fun text => valueHere none count (skipSpaces text)
  | levels + 1 => fun text =>
      valueHere (some (value count levels)) count (skipSpaces text)

/-- A value that nothing but spaces follows. -/
def whole (reading : Reading α) (text : Text) : Except Stop α := do
  let (result, rest) <- reading text
  match skipSpaces rest with
  | [] => return result
  | rest => stop .trailingCharacters rest 1

/-- The value of a JSON text. -/
def read (text : Text) : Except Fault Value :=
  (whole (value text.length nestingLimit) text).mapError (Stop.locate text)

end Json
end CellPreview
