import CellPreview.Json.Shape
import CellPreview.Json.Skipping
import CellPreview.Profile.Basic

/-!
# Reading profiles

A file of profiles is a list. Each profile is an object with four fields in any
order, each exactly once, among which other fields are passed over; or it is a
list of the four values in their order. The first fault in the text decides,
whether it is a fault of the notation or of the shape.
-/

namespace CellPreview
namespace Profile
namespace Reader

open Json

/-- The fields of a profile. -/
inductive Field
  | name
  | description
  | document
  | samples
  deriving DecidableEq

namespace Field

/-- Name of a field in a file. -/
def key : Field -> Text
  | .name => nameKey
  | .description => descriptionKey
  | .document => documentKey
  | .samples => samplesKey

/-- The fields in the order in which they are declared. -/
def all : List Field :=
  [.name, .description, .document, .samples]

/-- The field of a given name. -/
def ofKey? (key : Text) : Option Field :=
  all.find? fun field => field.key == key

end Field

/-- How a profile is called in a message. -/
def shapeName : Text := "struct Template"

/-- What is known of a profile while it is read. -/
structure Draft where
  name : Option Text
  description : Option Text
  document : Option Value
  samples : Option (List Text)

namespace Draft

/-- Nothing is known yet. -/
def empty : Draft := ⟨none, none, none, none⟩

/-- Whether a field is known. -/
def knows (draft : Draft) : Field -> Bool
  | .name => draft.name.isSome
  | .description => draft.description.isSome
  | .document => draft.document.isSome
  | .samples => draft.samples.isSome

/-- The profile of a draft of which everything is known, or else the first
field that is not. -/
def finish (draft : Draft) : Except Field Profile :=
  match draft with
  | ⟨some name, some description, some document, some samples⟩ =>
      .ok ⟨name, description, document, samples⟩
  | ⟨none, _, _, _⟩ => .error .name
  | ⟨_, none, _, _⟩ => .error .description
  | ⟨_, _, none, _⟩ => .error .document
  | ⟨_, _, _, none⟩ => .error .samples

end Draft

/-- A document, which stands two levels inside of the file. -/
def document (count : Nat) : Reading Value :=
  value count (Json.nestingLimit - 2)

/-- The sample values. -/
def samples (count : Nat) : Reading (List Text) :=
  Shape.list (Shape.text count) count

/-- The value of a field, added to a draft. -/
def fieldValue (count : Nat) (draft : Draft) (field : Field) :
    Reading Draft := fun text => do
  match field with
  | .name =>
      let (name, rest) <- Shape.text count text
      return (⟨some name, draft.description, draft.document, draft.samples⟩,
        rest)
  | .description =>
      let (description, rest) <- Shape.text count text
      return (⟨draft.name, some description, draft.document, draft.samples⟩,
        rest)
  | .document =>
      let (document, rest) <- document count text
      return (⟨draft.name, draft.description, some document, draft.samples⟩,
        rest)
  | .samples =>
      let (samples, rest) <- samples count text
      return (⟨draft.name, draft.description, draft.document, some samples⟩,
        rest)

/-- The fields of a profile up to the closing brace. No more than `count` are
read, which is no restriction for a text of at most that length, as `length`
is. -/
def fields (length : Nat) : Nat -> Bool -> Draft -> Reading Draft
  | 0, _, _ => fun text => stop .unfinishedObject text 0
  | count + 1, isFirst, draft => fun text => do
      match <- fieldStart length isFirst text with
      | (none, rest) => return (draft, rest)
      | (some key, rest) =>
          match Field.ofKey? key with
          | none => do
              let ((), rest) <- colon rest
              let ((), rest) <- Skipping.value length length rest
              fields length count false draft rest
          | some field =>
              if draft.knows field then
                stop (.mismatch (.repeated key)) (Shape.afterBrace rest) 0
              else do
                let ((), rest) <- colon rest
                let (draft, rest) <- fieldValue length draft field rest
                fields length count false draft rest

/-- A profile written as an object, after the opening brace. -/
def ofObject (count : Nat) : Reading Profile := fun text => do
  let (draft, rest) <- fields count count true .empty text
  match draft.finish with
  | .ok profile => return (profile, rest)
  | .error field => stop (.mismatch (.missing field.key)) rest 0

/-- The next of the four values of a profile that is written as a list, when
`found` of them have been read. -/
def element (found : Nat) (item : Reading α) : Reading α := fun text => do
  match <- itemStart (found == 0) text with
  | (true, rest) => item rest
  | (false, rest) =>
      stop (.mismatch (.length found (shapeName ++ " with 4 elements"))) rest 0

/-- A profile written as a list, after the opening bracket. -/
def ofList (count : Nat) : Reading Profile := fun text => do
  let (name, rest) <- element 0 (Shape.text count) text
  let (description, rest) <- element 1 (Shape.text count) rest
  let (document, rest) <- element 2 (document count) rest
  let (samples, rest) <- element 3 (samples count) rest
  let ((), rest) <- Shape.listEnd rest
  return (⟨name, description, document, samples⟩, rest)

/-- A profile. -/
def profile (count : Nat) : Reading Profile := fun text =>
  match skipSpaces text with
  | '{' :: rest => ofObject count rest
  | '[' :: rest => ofList count rest
  | rest => Shape.refuse shapeName count rest

end Reader

/-- The profiles of a file. -/
def readAll (text : Text) : Except Json.Fault (List Profile) :=
  (Json.whole (Json.Shape.list (Reader.profile text.length) text.length)
    text).mapError (Json.Stop.locate text)

end Profile
end CellPreview
