import CellPreview.Text.Quoted

/-!
# Faults in JSON text

A reader that gives up says why and where. While it reads it only knows the
text that remains and how many bytes past its start the fault lies; the line
and the column are worked out once, from the text before that point. Lines
count from one. A column is the number of bytes since the last newline.
-/

namespace CellPreview
namespace Json

/-- How a value differs from the shape that is wanted of it. -/
inductive Mismatch
  | kind (found wanted : Text)
  | missing (field : Text)
  | repeated (field : Text)
  | length (found : Nat) (wanted : Text)
  deriving DecidableEq

namespace Mismatch

/-- Wording of a mismatch. -/
def message : Mismatch -> Text
  | .kind found wanted =>
      "invalid type: " ++ found ++ ", expected " ++ wanted
  | .missing field => "missing field `" ++ field ++ "`"
  | .repeated field => "duplicate field `" ++ field ++ "`"
  | .length found wanted =>
      "invalid length " ++ Text.ofNat found ++ ", expected " ++ wanted

end Mismatch

/-- Why a text is refused. -/
inductive Cause
  | unfinishedList
  | unfinishedObject
  | unfinishedText
  | unfinishedValue
  | colonWanted
  | listEndWanted
  | objectEndWanted
  | identifierWanted
  | valueWanted
  | keyNotText
  | invalidEscape
  | invalidNumber
  | numberOutOfRange
  | controlCharacter
  | loneSurrogate
  | unfinishedEscape
  | trailingComma
  | trailingCharacters
  | tooDeep
  | mismatch (mismatch : Mismatch)
  deriving DecidableEq

namespace Cause

/-- Wording of a cause. -/
def message : Cause -> Text
  | .unfinishedList => "EOF while parsing a list"
  | .unfinishedObject => "EOF while parsing an object"
  | .unfinishedText => "EOF while parsing a string"
  | .unfinishedValue => "EOF while parsing a value"
  | .colonWanted => "expected `:`"
  | .listEndWanted => "expected `,` or `]`"
  | .objectEndWanted => "expected `,` or `\x7d`"
  | .identifierWanted => "expected ident"
  | .valueWanted => "expected value"
  | .keyNotText => "key must be a string"
  | .invalidEscape => "invalid escape"
  | .invalidNumber => "invalid number"
  | .numberOutOfRange => "number out of range"
  | .controlCharacter =>
      "control character (\\u0000-\\u001F) found while parsing a string"
  | .loneSurrogate => "lone leading surrogate in hex escape"
  | .unfinishedEscape => "unexpected end of hex escape"
  | .trailingComma => "trailing comma"
  | .trailingCharacters => "trailing characters"
  | .tooDeep => "recursion limit exceeded"
  | .mismatch found => found.message

end Cause

/-- A place in a text. -/
structure Position where
  line : Nat
  column : Nat
  deriving DecidableEq

namespace Position

/-- The start of a text. -/
def start : Position := ⟨1, 0⟩

/-- The place one character further on. -/
def advance (position : Position) (char : Char) : Position :=
  if char = '\n' then ⟨position.line + 1, 0⟩
  else ⟨position.line, position.column + char.utf8Size⟩

/-- The place after a text. -/
def after (position : Position) (text : Text) : Position :=
  text.foldl advance position

/-- The place a number of bytes further on in a text, which may fall inside a
character but not past the end. -/
def skip (position : Position) : Nat -> Text -> Position
  | 0, _ => position
  | _ + 1, [] => position
  | bytes + 1, char :: rest =>
      if char.utf8Size ≤ bytes + 1 then
        skip (position.advance char) (bytes + 1 - char.utf8Size) rest
      else
        ⟨position.line, position.column + (bytes + 1)⟩
termination_by _ text => text.length

end Position

/-- Where and why a reader gave up: the text that remained, and the number of
bytes of it that were looked at. -/
structure Stop where
  cause : Cause
  rest : Text
  seen : Nat
  deriving DecidableEq

/-- A refused text: why, and at which place. -/
structure Fault where
  cause : Cause
  position : Position
  deriving DecidableEq

namespace Fault

/-- Wording of a fault. -/
def message (fault : Fault) : Text :=
  fault.cause.message ++ " at line " ++ Text.ofNat fault.position.line ++
    " column " ++ Text.ofNat fault.position.column

end Fault

/-- The fault of a reader that stopped while reading a text. -/
def Stop.locate (text : Text) (stop : Stop) : Fault :=
  let before := text.take (text.length - stop.rest.length)
  ⟨stop.cause, (Position.start.after before).skip stop.seen stop.rest⟩

end Json
end CellPreview
