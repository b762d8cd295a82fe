import CellPreview.Blueprint.Basic
import CellPreview.Markup.Node
import CellPreview.Style

/-!
# Rendering

A blueprint is rendered for one field value at one instant. An element without
a tag renders to nothing, and so does everything below it. The content of an
element comes before its children and is left out when it is empty.
-/

namespace CellPreview
namespace Blueprint

/-- The node of a text, unless it is empty. -/
def textNodes (text : Text) : List Markup.Node :=
  if text.isEmpty then [] else [.text text]

/-- The node of the content of an element, if it has one. -/
def contentNodes (context : Formula.Context) :
    Option Text -> List Markup.Node
  | none => []
  | some text => textNodes (Formula.evaluate context text).value

/-- Evaluate the values of some entries. -/
def evaluateEntries (context : Formula.Context) (entries : Entries Text) :
    Entries Text :=
  entries.map fun (name, text) =>
    (name, (Formula.evaluate context text).value)

mutual

/-- The markup of a blueprint, if it has a tag. -/
def render (context : Formula.Context) : Blueprint -> Option Markup.Node
  | .element none _ _ _ _ => none
  | .element (some tag) content style attributes children =>
      some (.element tag (Style.resolve context style)
        (evaluateEntries context attributes)
        (contentNodes context content ++ renderAll context children))

/-- The markup of those among some blueprints that have a tag. -/
def renderAll (context : Formula.Context) : List Blueprint -> List Markup.Node
  | [] => []
  | child :: others =>
      (child.render context).toList ++ renderAll context others

end

end Blueprint
end CellPreview
