import CellPreview.Blueprint.Json

/-!
# Profiles

A profile is a named document to start from, with field values to preview it
with. Profiles are found by name without regard to the case of ASCII letters.
-/

namespace CellPreview

/-- A named document and sample field values. -/
structure Profile where
  name : Text
  description : Text
  document : Json.Value
  samples : List Text

namespace Profile

/-- The document as it is loaded into the editor. -/
def editorText (profile : Profile) : Text :=
  profile.document.pretty

/-- Whether a profile goes by a name. -/
def isNamed (name : Text) (profile : Profile) : Bool :=
  Text.sameLetters profile.name name

/-- Index of the first profile that goes by a name. -/
def findIndex? (profiles : List Profile) (name : Text) : Option Nat :=
  profiles.findIdx? (isNamed name)

/-- The first profile that goes by a name. -/
def find? (profiles : List Profile) (name : Text) : Option Profile :=
  profiles.find? (isNamed name)

/-- Key of the name. -/
def nameKey : Text := "name"

/-- Key of the description. -/
def descriptionKey : Text := "description"

/-- Key of the document. -/
def documentKey : Text := "jsonDocument"

/-- Key of the sample values. -/
def samplesKey : Text := "sampleValues"

/-- The JSON value of a profile. -/
def toValue (profile : Profile) : Json.Value :=
  .object
    [(nameKey, .text profile.name),
      (descriptionKey, .text profile.description),
      (documentKey, profile.document),
      (samplesKey, .list (profile.samples.map Json.Value.text))]

end Profile
end CellPreview
