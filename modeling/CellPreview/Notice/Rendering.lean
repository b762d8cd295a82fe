import CellPreview.Markup.Html
import CellPreview.Notice.Basic
import CellPreview.Rendering

/-!
# Notices of rendering

An element tells that it is rendered before the anomalies of its style, its
attributes and its content, and these come before the notices of its children.
In the output of HTML the children of an element come before its own
attributes.
-/

namespace CellPreview
namespace Blueprint

/-- Notices of the evaluation of the values of some entries. -/
def entriesNotices (context : Formula.Context) (entries : Entries Text) :
    List Notice :=
  entries.flatMap fun (_, text) => Formula.notices context text

/-- Notices of the evaluation of a content. -/
def contentNotices (context : Formula.Context) : Option Text -> List Notice
  | none => []
  | some text => Formula.notices context text

mutual

/-- Notices of rendering a blueprint. -/
def notices (context : Formula.Context) : Blueprint -> List Notice
  | .element none _ _ _ children => [.untagged (1 + sizeAll children)]
  | .element (some tag) content style attributes children =>
      .rendering tag context.field ::
        entriesNotices context style ++ entriesNotices context attributes ++
        contentNotices context content ++ noticesAll context children

/-- Notices of rendering some blueprints. -/
def noticesAll (context : Formula.Context) : List Blueprint -> List Notice
  | [] => []
  | child :: others => child.notices context ++ noticesAll context others

end

end Blueprint

namespace Markup

/-- Notices of the attributes whose names are none. -/
def attributeNotices (attributes : Entries Text) : List Notice :=
  attributes.flatMap fun (name, _) =>
    if isAttributeName name then [] else [.droppedAttribute name]

namespace Node

mutual

/-- Notices of writing a tree as HTML. -/
def notices : Node -> List Notice
  | .text _ => []
  | .element tag _ attributes children =>
      if isTagName tag then noticesAll children ++ attributeNotices attributes
      else .droppedElement tag :: noticesAll children

/-- Notices of writing some trees as HTML. -/
def noticesAll : List Node -> List Notice
  | [] => []
  | node :: others => node.notices ++ noticesAll others

end

end Node
end Markup
end CellPreview
