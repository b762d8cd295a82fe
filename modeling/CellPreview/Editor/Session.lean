import CellPreview.Editor.Basic

/-!
# Sessions

A session is an editor with a clipboard, driven by one action after the other.
Looking at the preview and copying the text leave the editor as it is.
-/

namespace CellPreview

/-- What can be done in a session. -/
inductive Action
  | setText (text : Text)
  | select (index : Nat)
  | reset
  | beautify
  | minify
  | copy
  | paste
  | preview (now : Int)
  | previewOf (samples : List Text) (now : Int)

/-- What an action gives back. -/
inductive Reply
  | done
  | noSuchProfile (index : Nat)
  | copied (text : Text)
  | rows (rows : List Row)

/-- An editor and what was copied last. -/
structure Session where
  editor : Editor
  clipboard : Option Text

namespace Session

/-- A session on some profiles. -/
def start (profiles : List Profile) : Session :=
  ⟨.start profiles, none⟩

/-- The session after an action. -/
def perform (session : Session) (action : Action) : Session :=
  let editor := session.editor
  match action with
  | .setText text => { session with editor := editor.setText text }
  | .select index =>
      match editor.select? index with
      | none => session
      | some applied => { session with editor := applied }
  | .reset => { session with editor := editor.reset }
  | .beautify => { session with editor := editor.beautify }
  | .minify => { session with editor := editor.minify }
  | .copy => { session with clipboard := some editor.text }
  | .paste =>
      { session with editor := editor.setText (session.clipboard.getD []) }
  | .preview _ => session
  | .previewOf _ _ => session

/-- What an action gives back. -/
def reply (session : Session) (action : Action) : Reply :=
  let editor := session.editor
  match action with
  | .select index =>
      match editor.select? index with
      | none => .noSuchProfile index
      | some _ => .done
  | .copy => .copied editor.text
  | .preview now => .rows (editor.rows now)
  | .previewOf samples now => .rows (editor.rowsOf samples now)
  | _ => .done

/-- The session after some actions. -/
def run (session : Session) (actions : List Action) : Session :=
  actions.foldl perform session

end Session
end CellPreview
