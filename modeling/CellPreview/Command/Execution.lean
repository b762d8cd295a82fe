import CellPreview.Command.Basic
import CellPreview.Command.Job
import CellPreview.Editor.Basic
import CellPreview.Notice.Editor
import CellPreview.Profile.Builtin
import CellPreview.Profile.Reader

/-!
# Carrying out commands

Every command reads the settings first, and all that it reads it reads before
it writes. Rendering selects a profile only for its samples: the document is
always the one of the command.
-/

namespace CellPreview
namespace Command

/-- The settings of a file; the usual ones without a file. -/
def settings : Option Text -> Job Settings
  | none => return .default
  | some path => do
      let text <- Job.file path
      Job.orFail (.notSettings path) (Settings.read? text)

/-- The builtin profiles and those of the file in the settings. -/
def profiles (settings : Settings) : Job (List Profile) :=
  match settings.profiles with
  | none => return Profile.builtin
  | some path => do
      let text <- Job.file path
      match Profile.readAll text with
      | .ok others => return Profile.builtin ++ others
      | .error fault => .fail (.notProfiles path fault)

/-- Check a document. -/
def validation (input : Text) : Job Unit := do
  let text <- Job.document input
  match Json.fault? text with
  | some fault => .fail (.refused input fault)
  | none => Job.put "ok\n"

/-- Write a document in another way. -/
def formatting (input : Text) (compact : Bool) : Job Unit := do
  let text <- Job.document input
  match Json.fault? text with
  | some fault => .fail (.notFormattable input fault)
  | none =>
      let reformatted :=
        if compact then Json.minify text else Json.beautify text
      Job.put (reformatted ++ ['\n'])

/-- An editor on some profiles in which the profile of a name is selected, if
there is a name. -/
def editorOn (profiles : List Profile) (name : Option Text) : Job Editor := do
  let editor := Editor.start profiles
  Job.report editor.textNotices
  match name with
  | none => return editor
  | some name =>
      let index <-
        Job.orFail (.unknownProfile name) (Profile.findIndex? profiles name)
      Job.report (editor.selectNotices index)
      return (editor.select? index).getD editor

/-- The instant of a preview: the one that is given, or else the one of the
settings, or else that of the clock. -/
def instant (given : Option Int) (settings : Settings) : Job Int :=
  match given <|> settings.now with
  | some now => return now
  | none => Job.instant

/-- Notices of writing rows in a form. -/
def pageNotices : OutputFormat -> List Row -> List Notice
  | .json, _ => []
  | .html, rows => rows.flatMap fun row => row.cell.notices

/-- Rows of a preview as they are written. -/
def page (tab : Text) : OutputFormat -> List Row -> Text
  | .json, rows => (Row.listValue rows).pretty ++ ['\n']
  | .html, rows => Row.listHtml tab rows

/-- Write the preview that an editor shows. -/
def preview (editor : Editor) (settings : Settings) (options : RenderOptions) :
    Job Unit := do
  let now <- instant options.now settings
  let samples :=
    if options.samples.isEmpty then editor.samples else options.samples
  let rows := editor.rowsOf samples now
  let form := options.output.getD settings.output
  Job.report (editor.rowNotices samples now)
  Job.report (pageNotices form rows)
  Job.put (page settings.indent form rows)

/-- Render a document. -/
def rendering (settings : Settings) (input : Text) (options : RenderOptions) :
    Job Unit := do
  let text <- Job.document input
  let profiles <- profiles settings
  let editor <- editorOn profiles (options.template <|> settings.template)
  let editor := editor.setText text
  Job.report editor.textNotices
  match editor.fault with
  | some fault => .fail (.refused input fault)
  | none => preview editor settings options

/-- The line of a profile in the list of all. -/
def listing (profile : Profile) : Text :=
  profile.name ++ '\t' :: profile.description ++ ['\n']

/-- Carry out a command. -/
def job (settings : Settings) : Command -> Job Unit
  | .validate input => validation input
  | .format input compact => formatting input compact
  | .render input options => rendering settings input options
  | .templates => do
      let profiles <- profiles settings
      Job.put (profiles.flatMap listing)
  | .template name => do
      let profiles <- profiles settings
      let profile <-
        Job.orFail (.unknownProfile name) (Profile.find? profiles name)
      Job.put (profile.editorText ++ ['\n'])

/-- Carry out a request. -/
def Request.job (request : Request) : Job Unit := do
  let settings <- settings request.config
  Command.job settings request.command

end Command
end CellPreview
