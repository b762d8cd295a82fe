import CellPreview.Proofs.Editor.LastGood

/-!
# Reformatting in the editor

The document or the fault of a text is the same before and after reformatting.
So reformatting replaces the text and leaves the rest of the editor as it is,
whatever was done before: a blueprint that is kept although the text has a
fault is kept once more.
-/

namespace CellPreview
namespace Editor

variable {profiles : List Profile} {texts : List Text} {editor : Editor}

/-- A text with the same document, or with the same fault, replaces the text and
nothing else. -/
theorem Sound.setText_of_document_eq
    (sound : Sound profiles texts editor)
    {text : Text}
    (same : Json.document text = Json.document editor.text) :
    editor.setText text = { editor with text := text } := by
  cases isDocument : Json.document editor.text with
  | ok found =>
      have fault_eq : editor.fault = none := by
        rw [sound.fault_eq, Json.fault?, isDocument]
      rw [setText_of_document_eq_ok (same.trans isDocument), fault_eq,
        sound.blueprint_eq_of_document isDocument]
  | error fault =>
      have fault_eq : editor.fault = some fault := by
        rw [sound.fault_eq, Json.fault?, isDocument]
      rw [setText_of_document_eq_error (same.trans isDocument), fault_eq]

theorem Sound.beautify_eq
    (sound : Sound profiles texts editor) :
    editor.beautify = { editor with text := Json.beautify editor.text } :=
  sound.setText_of_document_eq (Json.document_beautify editor.text)

theorem Sound.minify_eq
    (sound : Sound profiles texts editor) :
    editor.minify = { editor with text := Json.minify editor.text } :=
  sound.setText_of_document_eq (Json.document_minify editor.text)

@[simp] theorem beautify_text (editor : Editor) :
    editor.beautify.text = Json.beautify editor.text :=
  setText_text editor _

@[simp] theorem minify_text (editor : Editor) :
    editor.minify.text = Json.minify editor.text :=
  setText_text editor _

/-- A document without spaces is a single line. -/
theorem lineCount_minify
    (isFaultless : Json.fault? editor.text = none)
    (notBlank : Text.isAllBlank editor.text = false) :
    editor.minify.lineCount = 1 := by
  obtain blank | ⟨value, isRead⟩ := Json.fault?_eq_none_iff.mp isFaultless
  · rw [notBlank] at blank
    cases blank
  · rw [lineCount, minify_text,
      Text.split_of_notMem (Json.newline_notMem_minify isRead),
      List.length_singleton]

end Editor

namespace Session

/-- Reformatting only changes the text. -/
theorem exists_perform_reformatting
    {profiles : List Profile}
    {texts : List Text}
    {session : Session}
    (sound : session.editor.Sound profiles texts)
    {action : Action}
    (reformats : action ∈ [Action.beautify, Action.minify]) :
    ∃ text, session.perform action =
      { session with editor := { session.editor with text := text } } := by
  simp only [List.mem_cons, List.not_mem_nil, or_false] at reformats
  obtain rfl | rfl := reformats
  · rw [perform, sound.beautify_eq]
    exact ⟨_, rfl⟩
  · rw [perform, sound.minify_eq]
    exact ⟨_, rfl⟩

/-- Whatever was done, reformatting changes neither the blueprint, the fault,
the selection nor the preview. Of two reformattings the second decides, and a
document without spaces is a single line. -/
theorem reformatting_keeps_preview
    (profiles : List Profile)
    (actions : List Action) :
    let session := (start profiles).run actions
    let editor := session.editor
    (∀ action ∈ [Action.beautify, Action.minify],
      let after := (session.perform action).editor
      after.blueprint = editor.blueprint ∧ after.fault = editor.fault ∧
        after.selected = editor.selected ∧ after.profile? = editor.profile? ∧
        ∀ now, after.rows now = editor.rows now) ∧
    ((session.perform .minify).perform .beautify).editor.text =
      (session.perform .beautify).editor.text ∧
    ((session.perform .beautify).perform .minify).editor.text =
      (session.perform .minify).editor.text ∧
    (Json.fault? editor.text = none -> Text.isAllBlank editor.text = false ->
      (session.perform .minify).editor.lineCount = 1) := by
  intro session editor
  have sound : editor.Sound profiles ((start profiles).texts actions) :=
    sound_run_start profiles actions
  refine ⟨?_, ?_, ?_, Editor.lineCount_minify⟩
  · intro action reformats after
    obtain ⟨text, performed⟩ := exists_perform_reformatting sound reformats
    have after_eq : after = { editor with text := text } :=
      congrArg Session.editor performed
    rw [after_eq]
    exact ⟨rfl, rfl, rfl, rfl, fun now => Editor.rows_congr rfl rfl rfl now⟩
  · calc
      editor.minify.beautify.text
        = Json.beautify (Json.minify editor.text) := by simp
      _ = editor.beautify.text := by
        rw [Json.beautify_minify, Editor.beautify_text]
  · calc
      editor.beautify.minify.text
        = Json.minify (Json.beautify editor.text) := by simp
      _ = editor.minify.text := by
        rw [Json.minify_beautify, Editor.minify_text]

/-- A document over two lines, typed after a text with a fault. -/
theorem reformatting_keeps_preview_two_lines :
    let session := (start []).run [.setText ['['], .setText ['[', '\n', ']']]
    let editor := session.editor
    Json.fault? editor.text = none ∧ Text.isAllBlank editor.text = false ∧
      (session.perform .beautify).editor.fault = editor.fault ∧
      (session.perform .minify).editor.lineCount = 1 := by
  intro session editor
  have isFaultless : Json.fault? editor.text = none := by decide +kernel
  have notBlank : Text.isAllBlank editor.text = false := by decide +kernel
  obtain ⟨kept, -, -, oneLine⟩ :=
    reformatting_keeps_preview [] [.setText ['['], .setText ['[', '\n', ']']]
  exact ⟨isFaultless, notBlank, (kept .beautify List.mem_cons_self).2.1,
    oneLine isFaultless notBlank⟩

end Session
end CellPreview
