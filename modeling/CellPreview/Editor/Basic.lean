import CellPreview.Editor.Preview
import CellPreview.Profile.Basic

/-!
# The editor

The editor holds a text, the profile it was started from and the blueprint that
is shown. A text that can be read replaces the blueprint as a whole; one that
cannot leaves the last good blueprint where it is and has its fault reported.
-/

namespace CellPreview

/-- State of the editor. -/
structure Editor where
  profiles : List Profile
  /-- Index of the selected profile. -/
  selected : Nat
  text : Text
  /-- Blueprint that is shown; none when a blank text was the last good one. -/
  blueprint : Option Blueprint
  /-- Fault of the text, if it has one. -/
  fault : Option Json.Fault

namespace Editor

/-- Replace the text. -/
def setText (editor : Editor) (text : Text) : Editor :=
  match Blueprint.read text with
  | .ok blueprint =>
      { editor with text := text, blueprint := blueprint, fault := none }
  | .error fault => { editor with text := text, fault := some fault }

/-- The selected profile; none when there are no profiles. -/
def profile? (editor : Editor) : Option Profile :=
  editor.profiles[editor.selected]?

/-- Text of the document of a profile, and no text without a profile. -/
def textOf : Option Profile -> Text
  | none => []
  | some profile => profile.editorText

/-- Start with the first of some profiles. -/
def start (profiles : List Profile) : Editor :=
  setText ⟨profiles, 0, [], none, none⟩ (textOf profiles.head?)

/-- Select a profile and load its document, if there is one of that index. -/
def select? (editor : Editor) (index : Nat) : Option Editor :=
  editor.profiles[index]?.map fun profile =>
    { editor with selected := index }.setText profile.editorText

/-- Load the document of the selected profile again. -/
def reset (editor : Editor) : Editor :=
  editor.setText (textOf editor.profile?)

/-- Write the text over several lines, if it is a document. -/
def beautify (editor : Editor) : Editor :=
  editor.setText (Json.beautify editor.text)

/-- Write the text without spaces, if it is a document. -/
def minify (editor : Editor) : Editor :=
  editor.setText (Json.minify editor.text)

/-- Number of lines of the text. -/
def lineCount (editor : Editor) : Nat :=
  (Text.split '\n' editor.text).length

/-- The sample value of a profile without samples. -/
def defaultSample : Text := "Sample"

/-- Sample values of the selected profile. -/
def samples (editor : Editor) : List Text :=
  match editor.profile? with
  | some ⟨_, _, _, sample :: others⟩ => sample :: others
  | _ => [defaultSample]

/-- Rows of given samples. -/
def rowsOf (editor : Editor) (samples : List Text) (now : Int) : List Row :=
  Row.ofSamples editor.blueprint samples now

/-- Rows of the samples of the selected profile. -/
def rows (editor : Editor) (now : Int) : List Row :=
  editor.rowsOf editor.samples now

end Editor
end CellPreview
