import CellPreview.Json.Reader

/-!
# Passing over JSON values

A value that nobody wants is passed over and not built. Only what is needed to
find its end is checked: numerals have no range, escapes need not form
characters, and there is no bound on the nesting. Some faults are therefore
told apart less finely than by a reader that wants the value.
-/

namespace CellPreview
namespace Json
namespace Skipping

/-- The rest of a text literal after its opening quote, with at most `count`
escapes. -/
def text : Nat -> Reading Unit
  | 0, _ => stop .unfinishedText [] 0
  | count + 1, text =>
      match text.dropWhile isPlain with
      | [] => stop .unfinishedText [] 0
      | '"' :: rest => .ok ((), rest)
      | '\\' :: 'u' :: rest => do
          let (_, rest) <- escapeUnit rest
          Skipping.text count rest
      | '\\' :: rest => do
          let (_, rest) <- escape rest
          Skipping.text count rest
      | rest => stop .controlCharacter rest 0

/-- The name of a field and its colon. -/
def fieldName (count : Nat) : Reading Unit := fun text =>
  match skipSpaces text with
  | [] => stop .unfinishedObject [] 0
  | '"' :: rest => do
      let ((), rest) <- Skipping.text count rest
      colon rest
  | rest => stop .keyNotText rest 1

/-- Items of a list, after the opening bracket if `isFirst` and after an item
otherwise. -/
def items (value : Reading Unit) : Nat -> Bool -> Reading Unit
  | 0, _ => fun text => stop .unfinishedList text 0
  | count + 1, isFirst => fun text =>
      match skipSpaces text with
      | [] => stop .unfinishedList [] 0
      | ']' :: rest => .ok ((), rest)
      | char :: rest =>
          if isFirst then do
            let ((), rest) <- value (char :: rest)
            items value count false rest
          else if char = ',' then do
            let ((), rest) <- value rest
            items value count false rest
          else
            stop .listEndWanted (char :: rest) 1

/-- Fields of an object, after the opening brace if `isFirst` and after a field
otherwise. -/
def fields (value : Reading Unit) (length : Nat) : Nat -> Bool -> Reading Unit
  | 0, _ => fun text => stop .unfinishedObject text 0
  | count + 1, isFirst => fun text =>
      match skipSpaces text with
      | [] => stop .unfinishedObject [] 0
      | '}' :: rest => .ok ((), rest)
      | char :: rest =>
          if isFirst then do
            let ((), rest) <- fieldName length (char :: rest)
            let ((), rest) <- value rest
            fields value length count false rest
          else if char = ',' then do
            let ((), rest) <- fieldName length rest
            let ((), rest) <- value rest
            fields value length count false rest
          else
            stop .objectEndWanted (char :: rest) 1

/-- A value whose first character is at the start of the text. -/
def valueHere (inner : Reading Unit) (count : Nat) : Reading Unit
  | [] => stop .unfinishedValue [] 0
  | 'n' :: rest => wordRest () "ull" rest
  | 't' :: rest => wordRest () "rue" rest
  | 'f' :: rest => wordRest () "alse" rest
  | '"' :: rest => Skipping.text count rest
  | '[' :: rest => items inner count true rest
  | '{' :: rest => fields inner count count true rest
  | char :: rest =>
      if char = '-' || char.isDigit then do
        let (_, rest) <- Numeral.read .invalidNumber (char :: rest)
        return ((), rest)
      else
        stop .valueWanted (char :: rest) 1

/-- A value that nests at most `levels` deep, which is no restriction for a
text of at most that length. -/
def value (count : Nat) : Nat -> Reading Unit
  | 0 => fun text => stop .unfinishedValue text 0
  | levels + 1 => fun text =>
      valueHere (value count levels) count (skipSpaces text)

end Skipping
end Json
end CellPreview
