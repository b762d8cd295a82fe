import CellPreview.Blueprint.Basic
import CellPreview.Json.Document

/-!
# Blueprints and JSON

How a blueprint is made from a JSON value, and how it is written as one. An
object gives an element, whose five keys are read and all others passed over;
any other value gives the blank blueprint. Numbers and truth values count as
the text they are written with. Parts that are missing or empty are not written.
-/

namespace CellPreview
namespace Blueprint

/-- Key of the tag. -/
def tagKey : Text := "elmType"

/-- Key of the content. -/
def contentKey : Text := "txtContent"

/-- Key of the style. -/
def styleKey : Text := "style"

/-- Key of the attributes. -/
def attributesKey : Text := "attributes"

/-- Key of the children. -/
def childrenKey : Text := "children"

/-- Text of a value that is neither null nor composed. -/
def scalarText? : Json.Value -> Option Text
  | .text content => some content
  | .number numeral => some numeral.toText
  | .bool truth => some (if truth then "true" else "false")
  | _ => none

/-- The fields of an object whose values are scalars, as texts. -/
def scalarEntries : Option Json.Value -> Entries Text
  | some (.object fields) =>
      fields.filterMap fun (name, value) =>
        (scalarText? value).map fun text => (name, text)
  | _ => []

mutual

/-- The blueprint that a value describes. -/
def ofValue : Json.Value -> Blueprint
  | .object fields =>
      .element
        ((Entries.find? tagKey fields).bind Json.Value.text?)
        ((Entries.find? contentKey fields).bind scalarText?)
        (scalarEntries (Entries.find? styleKey fields))
        (scalarEntries (Entries.find? attributesKey fields))
        (childrenOf fields)
  | _ => blank

/-- The blueprints in the list of children of an object. -/
def childrenOf : List (Text × Json.Value) -> List Blueprint
  | [] => []
  | (name, value) :: rest =>
      if name = childrenKey then itemsOf value else childrenOf rest

/-- The blueprints of the items of a list; none for any other value. -/
def itemsOf : Json.Value -> List Blueprint
  | .list items => ofValues items
  | _ => []

/-- The blueprints that some values describe. -/
def ofValues : List Json.Value -> List Blueprint
  | [] => []
  | item :: others => ofValue item :: ofValues others

end

/-- The field of an optional text. -/
def optionalField (name : Text) : Option Text -> List (Text × Json.Value)
  | none => []
  | some text => Json.textField name text

mutual

/-- The JSON value of a blueprint. -/
def toValue : Blueprint -> Json.Value
  | .element tag content style attributes children =>
      .object (optionalField tagKey tag ++ optionalField contentKey content ++
        Json.entriesField styleKey style ++
        Json.entriesField attributesKey attributes ++
        Json.listField childrenKey (toValues children))

/-- The JSON values of some blueprints. -/
def toValues : List Blueprint -> List Json.Value
  | [] => []
  | child :: others => child.toValue :: toValues others

end

/-- The blueprint of an editor text; none for a blank text. -/
def read (text : Text) : Except Json.Fault (Option Blueprint) :=
  (Json.document text).map (Option.map ofValue)

/-- The compact JSON text of a blueprint. -/
def toText (blueprint : Blueprint) : Text :=
  blueprint.toValue.compact

end Blueprint
end CellPreview
