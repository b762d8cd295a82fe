import CellPreview.Json.Reader
import CellPreview.Json.Writer
import CellPreview.Text.Blank

/-!
# Text of the editor

The text in the editor is a JSON document, or blank, which means that there is
nothing to preview. Both ways of reformatting it leave a text that is no
document as it is.
-/

namespace CellPreview
namespace Json

/-- The document of a text; none for a blank text. -/
def document (text : Text) : Except Fault (Option Value) :=
  if Text.isAllBlank text then .ok none else (read text).map some

/-- The fault of a text that is neither blank nor a document. -/
def fault? (text : Text) : Option Fault :=
  match document text with
  | .ok _ => none
  | .error fault => some fault

/-- A document written again; any other text as it is. -/
def reformatWith (write : Value -> Text) (text : Text) : Text :=
  match read text with
  | .ok value => write value
  | .error _ => text

/-- A document over several lines; any other text as it is. -/
def beautify (text : Text) : Text :=
  reformatWith Value.pretty text

/-- A document without spaces; any other text as it is. -/
def minify (text : Text) : Text :=
  reformatWith Value.compact text

end Json
end CellPreview
