import CellPreview.Editor.Session
import CellPreview.Notice.Rendering

/-!
# Notices of the editor

Every text that is set and cannot be read is told of, since the preview shows
an older one from then on. Selecting a profile is told of as well, and a
preview gives the notices of rendering its rows.
-/

namespace CellPreview
namespace Editor

/-- Notices of having set the text of an editor. -/
def textNotices (editor : Editor) : List Notice :=
  editor.fault.toList.map .keptPreview

/-- Notices of selecting a profile. -/
def selectNotices (editor : Editor) (index : Nat) : List Notice :=
  match editor.select? index with
  | none => []
  | some applied => .selecting index :: applied.textNotices

/-- Notices of rendering the rows of some samples. -/
def rowNotices (editor : Editor) (samples : List Text) (now : Int) :
    List Notice :=
  match editor.blueprint with
  | none => []
  | some blueprint =>
      samples.flatMap fun sample => blueprint.notices ⟨sample, now⟩

end Editor

namespace Session

/-- Notices of an action. -/
def notices (session : Session) (action : Action) : List Notice :=
  let editor := session.editor
  match action with
  | .select index => editor.selectNotices index
  | .copy => []
  | .preview now => editor.rowNotices editor.samples now
  | .previewOf samples now => editor.rowNotices samples now
  | _ => (session.perform action).editor.textNotices

end Session

/-- Notices of writing the rows of a preview as HTML. -/
def Cell.notices : Cell -> List Notice
  | .rendered node => node.notices
  | _ => []

end CellPreview
