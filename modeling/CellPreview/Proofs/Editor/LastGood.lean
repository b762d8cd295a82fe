import CellPreview.Editor.Session
import CellPreview.Proofs.Json.Document

/-!
# The last good blueprint

Whatever is done in a session, the reported fault is that of the text in the
editor, and the blueprint that is shown is the one of the last text that could
be read. Every action that changes the text does so in the same way, so one
inversion of a step covers them all.
-/

namespace CellPreview

/-! ## The last document -/

/-- The document of the last text that is a document or blank. There is none if
that text is blank, or if no text is of this kind. -/
def lastDocument (texts : List Text) : Option Json.Value :=
  (texts.reverse.findSome? fun text => (Json.document text).toOption).join

section LastDocument

variable {texts : List Text} {text : Text}

theorem lastDocument_concat_of_ok
    {found : Option Json.Value}
    (isDocument : Json.document text = .ok found) :
    lastDocument (texts ++ [text]) = found := by
  simp [lastDocument, isDocument, Except.toOption]

theorem lastDocument_concat_of_error
    {fault : Json.Fault}
    (isRefused : Json.document text = .error fault) :
    lastDocument (texts ++ [text]) = lastDocument texts := by
  simp [lastDocument, isRefused, Except.toOption]

/-- A text that is held on to adds nothing. -/
theorem lastDocument_concat_of_getLast?
    (isLast : texts.getLast? = some text) :
    lastDocument (texts ++ [text]) = lastDocument texts := by
  cases isDocument : Json.document text with
  | error fault => exact lastDocument_concat_of_error isDocument
  | ok found =>
      obtain ⟨before, rfl⟩ := List.getLast?_eq_some_iff.mp isLast
      rw [lastDocument_concat_of_ok isDocument,
        lastDocument_concat_of_ok isDocument]

end LastDocument

/-! ## A new text -/

namespace Editor

variable {editor : Editor} {text : Text}

theorem setText_of_document_eq_ok
    {found : Option Json.Value}
    (isDocument : Json.document text = .ok found) :
    editor.setText text =
      { editor with
        text := text, blueprint := found.map Blueprint.ofValue, fault := none } := by
  rw [setText, Blueprint.read, isDocument]
  rfl

theorem setText_of_document_eq_error
    {fault : Json.Fault}
    (isRefused : Json.document text = .error fault) :
    editor.setText text = { editor with text := text, fault := some fault } := by
  rw [setText, Blueprint.read, isRefused]
  rfl

@[simp] theorem setText_text (editor : Editor) (text : Text) :
    (editor.setText text).text = text := by
  rw [setText]
  split <;> rfl

@[simp] theorem setText_profiles (editor : Editor) (text : Text) :
    (editor.setText text).profiles = editor.profiles := by
  rw [setText]
  split <;> rfl

@[simp] theorem setText_selected (editor : Editor) (text : Text) :
    (editor.setText text).selected = editor.selected := by
  rw [setText]
  split <;> rfl

@[simp] theorem setText_fault (editor : Editor) (text : Text) :
    (editor.setText text).fault = Json.fault? text := by
  cases isDocument : Json.document text with
  | ok found => rw [setText_of_document_eq_ok isDocument, Json.fault?, isDocument]
  | error fault =>
      rw [setText_of_document_eq_error isDocument, Json.fault?, isDocument]

/-- A new text replaces the blueprint of the last document by its own, if it has
one. -/
theorem setText_blueprint
    (texts : List Text)
    (blueprint_eq : editor.blueprint = (lastDocument texts).map Blueprint.ofValue)
    (text : Text) :
    (editor.setText text).blueprint =
      (lastDocument (texts ++ [text])).map Blueprint.ofValue := by
  cases isDocument : Json.document text with
  | ok found =>
      rw [setText_of_document_eq_ok isDocument,
        lastDocument_concat_of_ok isDocument]
  | error fault =>
      rw [setText_of_document_eq_error isDocument,
        lastDocument_concat_of_error isDocument, blueprint_eq]

/-- The rows depend on the profiles, the selection and the blueprint only. -/
theorem rows_congr
    {other : Editor}
    (profiles_eq : editor.profiles = other.profiles)
    (selected_eq : editor.selected = other.selected)
    (blueprint_eq : editor.blueprint = other.blueprint)
    (now : Int) :
    editor.rows now = other.rows now := by
  rw [rows, rows, rowsOf, rowsOf, samples, samples, profile?, profile?,
    profiles_eq, selected_eq, blueprint_eq]

/-- A text that cannot be read leaves the preview as it is. -/
theorem rows_setText_of_fault
    (isFaulty : Json.fault? text ≠ none)
    (now : Int) :
    (editor.setText text).rows now = editor.rows now := by
  refine rows_congr (setText_profiles editor text)
    (setText_selected editor text) ?_ now
  cases isDocument : Json.document text with
  | ok found => simp [Json.fault?, isDocument] at isFaulty
  | error fault => rw [setText_of_document_eq_error isDocument]

/-! ## The invariant -/

/-- What holds of an editor on some profiles that held some texts. -/
structure Sound
    (profiles : List Profile)
    (texts : List Text)
    (editor : Editor) : Prop where
  /-- The profiles stay the same. -/
  profiles_eq : editor.profiles = profiles
  /-- A profile is selected if there is one. -/
  selected_lt : profiles ≠ [] -> editor.selected < profiles.length
  /-- The text is the last one. -/
  text_last : texts.getLast? = some editor.text
  /-- The fault is that of the text. -/
  fault_eq : editor.fault = Json.fault? editor.text
  /-- The blueprint is that of the last document. -/
  blueprint_eq :
    editor.blueprint = (lastDocument texts).map Blueprint.ofValue

namespace Sound

variable {profiles : List Profile} {texts : List Text}

/-- Without a fault the blueprint is that of the text. -/
theorem blueprint_eq_of_document
    (sound : Sound profiles texts editor)
    {found : Option Json.Value}
    (isDocument : Json.document editor.text = .ok found) :
    editor.blueprint = found.map Blueprint.ofValue := by
  obtain ⟨before, texts_eq⟩ := List.getLast?_eq_some_iff.mp sound.text_last
  rw [sound.blueprint_eq, texts_eq, lastDocument_concat_of_ok isDocument]

theorem read_eq_of_fault_eq_none
    (sound : Sound profiles texts editor)
    (isFaultless : editor.fault = none) :
    Blueprint.read editor.text = .ok editor.blueprint := by
  rw [sound.fault_eq] at isFaultless
  cases isDocument : Json.document editor.text with
  | error fault => simp [Json.fault?, isDocument] at isFaultless
  | ok found =>
      rw [sound.blueprint_eq_of_document isDocument, Blueprint.read, isDocument]
      rfl

/-- A selection among the profiles. -/
theorem withSelected
    (sound : Sound profiles texts editor)
    {selected : Nat}
    (inRange : selected < profiles.length) :
    Sound profiles texts { editor with selected := selected } where
  profiles_eq := sound.profiles_eq
  selected_lt := fun _ => inRange
  text_last := sound.text_last
  fault_eq := sound.fault_eq
  blueprint_eq := sound.blueprint_eq

/-- Holding on to the text. -/
theorem hold
    (sound : Sound profiles texts editor) :
    Sound profiles (texts ++ [editor.text]) editor where
  profiles_eq := sound.profiles_eq
  selected_lt := sound.selected_lt
  text_last := by simp
  fault_eq := sound.fault_eq
  blueprint_eq := by
    rw [lastDocument_concat_of_getLast? sound.text_last, sound.blueprint_eq]

/-- A new text. -/
theorem setText
    (sound : Sound profiles texts editor)
    (text : Text) :
    Sound profiles (texts ++ [text]) (editor.setText text) where
  profiles_eq := by rw [setText_profiles, sound.profiles_eq]
  selected_lt := by
    rw [setText_selected]
    exact sound.selected_lt
  text_last := by simp
  fault_eq := by rw [setText_fault, setText_text]
  blueprint_eq := setText_blueprint texts sound.blueprint_eq text

end Sound

/-- The editor at the start. -/
theorem sound_start (profiles : List Profile) :
    (start profiles).Sound profiles [(start profiles).text] where
  profiles_eq := by rw [start, setText_profiles]
  selected_lt := by
    rw [start, setText_selected]
    exact List.length_pos_iff.mpr
  text_last := rfl
  fault_eq := by rw [start, setText_fault, setText_text]
  blueprint_eq := by
    rw [start, setText_text]
    exact setText_blueprint [] rfl (textOf profiles.head?)

end Editor

/-! ## Sessions -/

namespace Session

/-- What an action does to the editor: nothing, or it sets the text after it
may have selected another profile. -/
theorem editor_perform_cases (session : Session) (action : Action) :
    (session.perform action).editor = session.editor ∨
      (∃ text, (session.perform action).editor = session.editor.setText text) ∨
      ∃ selected < session.editor.profiles.length, ∃ text,
        (session.perform action).editor =
          { session.editor with selected := selected }.setText text := by
  cases action with
  | setText text => exact .inr (.inl ⟨text, rfl⟩)
  | select index =>
      cases found : session.editor.profiles[index]? with
      | none =>
          refine .inl ?_
          rw [perform, Editor.select?, found]
          rfl
      | some profile =>
          obtain ⟨inRange, _⟩ := List.getElem?_eq_some_iff.mp found
          refine .inr (.inr ⟨index, inRange, profile.editorText, ?_⟩)
          rw [perform, Editor.select?, found]
          rfl
  | reset => exact .inr (.inl ⟨_, rfl⟩)
  | beautify => exact .inr (.inl ⟨_, rfl⟩)
  | minify => exact .inr (.inl ⟨_, rfl⟩)
  | copy => exact .inl rfl
  | paste => exact .inr (.inl ⟨_, rfl⟩)
  | preview now => exact .inl rfl
  | previewOf samples now => exact .inl rfl

/-- The texts in the editor, at the start and after each of some actions. -/
def texts (session : Session) : List Action -> List Text
  | [] => [session.editor.text]
  | action :: others =>
      session.editor.text :: (session.perform action).texts others

variable {profiles : List Profile} {before : List Text} {session : Session}

/-- One action. -/
theorem sound_perform
    (sound : session.editor.Sound profiles before)
    (action : Action) :
    (session.perform action).editor.Sound profiles
      (before ++ [(session.perform action).editor.text]) := by
  obtain kept | ⟨text, changed⟩ | ⟨selected, inRange, text, changed⟩ :=
    session.editor_perform_cases action
  · rw [kept]
    exact sound.hold
  · rw [changed, Editor.setText_text]
    exact sound.setText text
  · rw [changed, Editor.setText_text]
    rw [sound.profiles_eq] at inRange
    exact (sound.withSelected inRange).setText text

/-- Any actions, one after the other. -/
theorem sound_run
    (before : List Text)
    (sound : session.editor.Sound profiles (before ++ [session.editor.text]))
    (actions : List Action) :
    (session.run actions).editor.Sound profiles
      (before ++ session.texts actions) := by
  -- The earlier texts grow by one with each action, so they must not be fixed.
  induction actions generalizing session before with
  | nil => exact sound
  | cons action others inductionHypothesis =>
      have later := inductionHypothesis _ (sound_perform sound action)
      rw [List.append_assoc] at later
      exact later

/-- Any actions from the start. -/
theorem sound_run_start (profiles : List Profile) (actions : List Action) :
    ((start profiles).run actions).editor.Sound profiles
      ((start profiles).texts actions) :=
  sound_run [] (Editor.sound_start profiles) actions

/-- Whatever was done, the editor reports the fault of its text and shows the
blueprint of the last text that was a document or blank. The selection stays
among the profiles, which never change, and a text that cannot be read leaves
the rows of the preview as they are. -/
theorem last_good_blueprint_shown
    (profiles : List Profile)
    (actions : List Action) :
    let session := (start profiles).run actions
    let editor := session.editor
    editor.fault = Json.fault? editor.text ∧
    (editor.fault = none ↔
      Text.isAllBlank editor.text ∨
        ∃ value, Json.read editor.text = .ok value) ∧
    editor.blueprint =
      (lastDocument ((start profiles).texts actions)).map Blueprint.ofValue ∧
    (editor.fault = none ->
      Blueprint.read editor.text = .ok editor.blueprint) ∧
    (profiles ≠ [] -> editor.selected < profiles.length) ∧
    editor.profiles = profiles ∧
    ∀ text, Json.fault? text ≠ none -> ∀ now,
      (session.perform (.setText text)).editor.rows now = editor.rows now := by
  intro session editor
  have sound : editor.Sound profiles ((start profiles).texts actions) :=
    sound_run_start profiles actions
  refine ⟨sound.fault_eq, ?_, sound.blueprint_eq,
    sound.read_eq_of_fault_eq_none, sound.selected_lt, sound.profiles_eq, ?_⟩
  · rw [sound.fault_eq]
    exact Json.fault?_eq_none_iff
  · intro text isFaulty now
    exact Editor.rows_setText_of_fault isFaulty now

/-- A document that is broken and repaired, with a profile that is not there
selected in between. -/
theorem last_good_blueprint_shown_repaired :
    let profiles : List Profile := [⟨['A'], [], .list [], []⟩]
    let session := (start profiles).run
      [.setText ['[', '1'], .select 1, .beautify, .setText ['1']]
    let editor := session.editor
    editor.fault = none ∧ Json.fault? ['['] ≠ none ∧
      Blueprint.read editor.text = .ok editor.blueprint ∧
      editor.selected < 1 ∧
      (session.perform (.setText ['['])).editor.rows 0 = editor.rows 0 := by
  intro profiles session editor
  have isFaultless : editor.fault = none := by decide +kernel
  have isFaulty : Json.fault? ['['] ≠ none := by decide +kernel
  obtain ⟨-, -, -, shown, inRange, -, kept⟩ :=
    last_good_blueprint_shown profiles
      [.setText ['[', '1'], .select 1, .beautify, .setText ['1']]
  exact ⟨isFaultless, isFaulty, shown isFaultless,
    inRange (List.cons_ne_nil _ _), kept ['['] isFaulty 0⟩

end Session
end CellPreview
