import CellPreview.Entries
import CellPreview.Formula.Evaluation

/-!
# Styles

A style property is named in a document with hyphens between its words, and in
a rendered element with a capital letter at the start of each word but the
first. Resolving a style renames its properties and evaluates their values.
-/

namespace CellPreview
namespace Style

/-- Replace each hyphen before a lowercase letter by the capital letter. -/
def camelCase : Text -> Text
  | [] => []
  | [char] => [char]
  | char :: next :: rest =>
      if char = '-' && next.isLower then next.toUpper :: camelCase rest
      else char :: camelCase (next :: rest)

/-- Replace each capital letter by a hyphen and the lowercase letter. -/
def kebabCase (key : Text) : Text :=
  key.flatMap fun char =>
    if char.isUpper then ['-', char.toLower] else [char]

/-- Evaluate the values of a style and rename its properties. -/
def resolve (context : Formula.Context) (style : Entries Text) :
    Entries Text :=
  Entries.ofPairs <| style.map fun (name, text) =>
    (camelCase name, (Formula.evaluate context text).value)

end Style
end CellPreview
