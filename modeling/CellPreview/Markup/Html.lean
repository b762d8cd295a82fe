import CellPreview.Markup.Node
import CellPreview.Style

/-!
# HTML of markup trees

A tree is written as HTML either without any spaces between elements or with an
indentation for each level. Texts and attribute values are escaped. An element
whose tag is no name gives way to its children, and an attribute whose name is
none is left out, so that no name ever carries markup into the output.
-/

namespace CellPreview
namespace Markup

/-- One character of a text. -/
def escapedTextChar (char : Char) : Text :=
  match char with
  | '&' => "&amp;"
  | '<' => "&lt;"
  | '>' => "&gt;"
  | _ => [char]

/-- One character of an attribute value. -/
def escapedValueChar (char : Char) : Text :=
  match char with
  | '&' => "&amp;"
  | '"' => "&quot;"
  | '<' => "&lt;"
  | _ => [char]

/-- A text as it stands between tags. -/
def escapedText (content : Text) : Text :=
  content.flatMap escapedTextChar

/-- An attribute value as it stands between its quotes. -/
def escapedValue (value : Text) : Text :=
  value.flatMap escapedValueChar

/-- Whether a text is the name of a tag: an ASCII letter, then letters, digits
and hyphens. -/
def isTagName : Text -> Bool
  | [] => false
  | first :: rest =>
      first.isAlpha && rest.all fun char => char.isAlphanum || char == '-'

/-- Whether a text is the name of an attribute: an ASCII letter, an underscore
or a colon, then these, digits, points and hyphens. -/
def isAttributeName : Text -> Bool
  | [] => false
  | first :: rest =>
      (first.isAlpha || first == '_' || first == ':') &&
        rest.all fun char =>
          char.isAlphanum || char == '_' || char == '.' || char == ':' ||
            char == '-'

/-- A name and its quoted value, after a space. -/
def attributeText (name value : Text) : Text :=
  ' ' :: name ++ "=\"" ++ escapedValue value ++ ['"']

/-- The properties of a style in one text, under their names in documents. -/
def styleText (style : Entries Text) : Text :=
  Text.joined "; " (style.map fun (name, value) =>
    Style.kebabCase name ++ ": " ++ value)

/-- The attributes of a start tag: the style, if there is any, and then every
attribute with a proper name. -/
def tagAttributes (style attributes : Entries Text) : Text :=
  (if style.isEmpty then [] else attributeText "style" (styleText style)) ++
    attributes.flatMap fun (name, value) =>
      if isAttributeName name then attributeText name value else []

/-- The content of a text; none for an element. -/
def Node.asText? : Node -> Option Text
  | .text content => some content
  | .element .. => none

/-- Whether all of some nodes are texts. -/
def allTexts (nodes : List Node) : Bool :=
  nodes.all fun node => node.asText?.isSome

/-- An element with given attributes and written children. The closing tag is
on a line of its own when the children are, and left out when nothing was
written for them. -/
def elementHtml
    (tag attributes inside indent : Text)
    (ownLine : Bool) : Text :=
  if inside.isEmpty then
    indent ++ '<' :: tag ++ attributes ++ " />"
  else
    indent ++ '<' :: tag ++ attributes ++ ['>'] ++ inside ++
      (if ownLine then '\n' :: indent else []) ++ "</" ++ tag ++ ['>']

namespace Node

mutual

/-- HTML of a tree whose first line starts with `indent`; each level below is
indented by one more `tab`, and an empty `tab` keeps all on one line. -/
def toHtml (tab indent : Text) : Node -> Text
  | .text content => indent ++ escapedText content
  | .element tag style attributes children =>
      if isTagName tag then
        if allTexts children then
          elementHtml tag (tagAttributes style attributes)
            (children.flatMap fun node => escapedText node.ownText) indent false
        else
          elementHtml tag (tagAttributes style attributes)
            ((htmlParts tab (indent ++ tab) children).flatMap fun part =>
              if tab.isEmpty then part else '\n' :: part)
            indent (!tab.isEmpty)
      else
        Text.joined (if tab.isEmpty then [] else ['\n'])
          (htmlParts tab indent children)

/-- HTML of some trees. -/
def htmlParts (tab indent : Text) : List Node -> List Text
  | [] => []
  | node :: others => node.toHtml tab indent :: htmlParts tab indent others

end

end Node
end Markup
end CellPreview
