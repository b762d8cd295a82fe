import CellPreview.Toml.Document

/-!
# Settings

Settings of a preview, read from a TOML document in which each of them may be
given once: the profile to preview with, a fixed instant, the indentation of
HTML, the form of the output and a file of further profiles. A document that
gives anything else is refused.
-/

namespace CellPreview

/-- Form in which a preview is written. -/
inductive OutputFormat
  | html
  | json
  deriving DecidableEq

namespace OutputFormat

/-- Name of a form. -/
def name : OutputFormat -> Text
  | .html => "html"
  | .json => "json"

/-- The form of a given name. -/
def ofName? (name : Text) : Option OutputFormat :=
  [html, json].find? fun format => format.name == name

end OutputFormat

/-- Settings of a preview. -/
structure Settings where
  template : Option Text
  now : Option Int
  indent : Text
  output : OutputFormat
  profiles : Option Text
  deriving DecidableEq

namespace Settings

/-- What holds when nothing is given. -/
def default : Settings :=
  ⟨none, none, [' ', ' '], .html, none⟩

/-- Whether an item is a list or a table with nothing in it. -/
def isEmpty : Toml.Item -> Bool
  | .emptyList => true
  | .table _ entries => entries.isEmpty
  | _ => false

/-- The form that an item gives: its name, or a table of its name alone with
nothing in it. -/
def format? : Toml.Item -> Option OutputFormat
  | .text name => OutputFormat.ofName? name
  | .table _ [(name, item)] =>
      if isEmpty item then OutputFormat.ofName? name else none
  | _ => none

/-- Settings with one more of them given. -/
def give? (settings : Settings) (name : Text) (item : Toml.Item) :
    Option Settings :=
  match String.ofList name, item with
  | "template", .text template =>
      some { settings with template := some template }
  | "now_millis", .integer now => some { settings with now := some now }
  | "indent", .text indent => some { settings with indent := indent }
  | "output", item =>
      (format? item).map fun output => { settings with output := output }
  | "profiles", .text profiles =>
      some { settings with profiles := some profiles }
  | _, _ => none

/-- The settings of a document. -/
def read? (text : Text) : Option Settings := do
  let table <- Toml.read? text
  table.foldlM (fun settings (name, item) => settings.give? name item) default

end Settings
end CellPreview
