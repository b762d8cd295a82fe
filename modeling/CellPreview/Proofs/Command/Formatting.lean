import CellPreview.Command.Execution
import CellPreview.Proofs.Command.Job
import CellPreview.Proofs.Json.Document

/-!
# The formatting command

What the command writes is the text in its new form, and a newline. The newline
is one more space around a document, so the command keeps its own output when
the text is a document. A blank text is kept as it is, so there the output grows
by a newline each time.
-/

namespace CellPreview
namespace Command

/-! ## The text that is written -/

section Texts

variable {text : Text} {value : Json.Value}

/-- What the command writes for a text that it accepts. -/
def formatted (compact : Bool) (text : Text) : Text :=
  (if compact then Json.minify text else Json.beautify text) ++ ['\n']

/-- The layout in which the command writes documents. -/
def layoutOf (compact : Bool) : Json.Layout :=
  if compact then .tight else .indented

theorem formatted_of_read
    (isRead : Json.read text = .ok value)
    (compact : Bool) :
    formatted compact text = value.laidOut (layoutOf compact) 0 ++ ['\n'] := by
  cases compact with
  | false =>
      rw [layoutOf, if_neg Bool.false_ne_true, ← Json.Value.pretty_eq_laidOut,
        ← Json.reformatWith_of_read_eq_ok Json.Value.pretty isRead]
      rfl
  | true =>
      rw [layoutOf, if_pos rfl, ← Json.Value.compact_eq_laidOut,
        ← Json.reformatWith_of_read_eq_ok Json.Value.compact isRead]
      rfl

/-- The written form of a document is read as the same document. -/
theorem read_formatted
    (isRead : Json.read text = .ok value)
    (compact : Bool) :
    Json.read (formatted compact text) = .ok value := by
  have newlineSpacing : Json.IsSpacing ['\n'] := by
    simp [Json.IsSpacing, Json.isSpace]
  rw [formatted_of_read isRead]
  exact Json.read_laidOut (Json.isReadable_of_read isRead)
    Json.isSpacing_nil newlineSpacing _ 0

/-- A blank text is written as it is. -/
theorem formatted_of_isAllBlank
    (isBlank : Text.isAllBlank text)
    (compact : Bool) :
    formatted compact text = text ++ ['\n'] := by
  cases isRead : Json.read text with
  | ok value =>
      rw [Json.isAllBlank_eq_false_of_read isRead] at isBlank
      cases isBlank
  | error fault =>
      cases compact <;>
        simp [formatted, Json.minify, Json.beautify,
          Json.reformatWith_of_read_eq_error _ isRead]

theorem isAllBlank_formatted
    (isBlank : Text.isAllBlank text)
    (compact : Bool) :
    Text.isAllBlank (formatted compact text) := by
  rw [formatted_of_isAllBlank isBlank, Text.isAllBlank, List.all_append]
  exact Bool.and_eq_true_iff.mpr ⟨isBlank, rfl⟩

/-- What is written for an accepted text is accepted. -/
theorem fault?_formatted
    (noFault : Json.fault? text = none)
    (compact : Bool) :
    Json.fault? (formatted compact text) = none := by
  rw [Json.fault?_eq_none_iff] at noFault ⊢
  obtain isBlank | ⟨value, isRead⟩ := noFault
  · exact .inl (isAllBlank_formatted isBlank compact)
  · exact .inr ⟨value, read_formatted isRead compact⟩

/-- Of two ways of writing a document the second decides. -/
theorem formatted_formatted_of_read
    (isRead : Json.read text = .ok value)
    (compact other : Bool) :
    formatted other (formatted compact text) = formatted other text := by
  rw [formatted_of_read (read_formatted isRead compact),
    formatted_of_read isRead]

/-- What is written for an accepted text is kept, but for one more newline after
a blank text. -/
theorem formatted_formatted
    (noFault : Json.fault? text = none)
    (compact : Bool) :
    formatted compact (formatted compact text) =
      if Text.isAllBlank text then formatted compact text ++ ['\n']
      else formatted compact text := by
  obtain isBlank | ⟨value, isRead⟩ := Json.fault?_eq_none_iff.mp noFault
  · rw [if_pos isBlank,
      formatted_of_isAllBlank (isAllBlank_formatted isBlank compact)]
  · rw [formatted_formatted_of_read isRead,
      Json.isAllBlank_eq_false_of_read isRead, if_neg Bool.false_ne_true]

end Texts

/-! ## The settings -/

section Reading

variable {surroundings later : Surroundings}

theorem isSilent_settings (config : Option Text) :
    (settings config).IsSilent := by
  cases config with
  | none => exact Job.isSilent_done _
  | some path =>
      exact (Job.isSilent_textOf _ _).bind fun _ => Job.isSilent_orFail _ _

/-- The settings depend on nothing but the text of their file. -/
theorem run_settings_eq
    {config : Option Text}
    (sameFile : ∀ path ∈ config,
      later.text (.file path) = surroundings.text (.file path)) :
    (settings config).run later = (settings config).run surroundings := by
  cases config with
  | none => rfl
  | some path =>
      rw [settings, Job.file, Job.textOf, Job.bind_eq, Job.bind, Job.run,
        Job.run, sameFile path rfl]
      cases surroundings.text (.file path) with
      | error fault => rfl
      | ok text =>
          simp only [Job.bind]
          cases Settings.read? text <;> rfl

end Reading

/-! ## Formatting again -/

section Formatting

variable {surroundings later : Surroundings}
variable {input again text : Text}
variable {compact : Bool}
variable {request : Request}

theorem run_formatting
    (isText : surroundings.text (.ofPath input) = .ok text)
    (noFault : Json.fault? text = none) :
    ((formatting input compact).run surroundings).result = .ok () ∧
      ((formatting input compact).run surroundings).written =
        formatted compact text := by
  rw [formatting, Job.document, Job.textOf, Job.bind_eq, Job.bind, Job.run,
    isText]
  simp only [Job.bind, noFault]
  exact ⟨rfl, List.append_nil _⟩

/-- A text that is accepted has no fault. -/
theorem exists_text_of_formatting
    (accepted : ((formatting input compact).run surroundings).result = .ok ()) :
    ∃ text, surroundings.text (.ofPath input) = .ok text ∧
      Json.fault? text = none := by
  obtain ⟨text, isDocument, accepted, _⟩ :=
    (Job.isSilent_textOf _ _).exists_of_run_bind accepted
  have isText := Job.text_of_document_eq_ok isDocument
  cases noFault : Json.fault? text with
  | some fault =>
      rw [noFault] at accepted
      cases accepted
  | none => exact ⟨text, isText, noFault⟩

/-- A request that shares its options with another, to format an input. -/
def Request.toFormat
    (request : Request)
    (input : Text)
    (compact : Bool) : Request :=
  { request with command := .format input compact }

theorem Request.run_toFormat
    {found : Settings}
    (isFound : ((settings request.config).run surroundings).result = .ok found)
    (isText : surroundings.text (.ofPath input) = .ok text)
    (noFault : Json.fault? text = none) :
    ((request.toFormat input compact).job.run surroundings).result = .ok () ∧
      ((request.toFormat input compact).job.run surroundings).written =
        formatted compact text := by
  obtain ⟨isDone, isFormatted⟩ := @run_formatting _ _ _ compact isText noFault
  obtain ⟨sameResult, sameWritten⟩ :=
    @Job.IsSilent.run_bind surroundings _ _ _
      (fun found => Command.job found (.format input compact)) _
      (isSilent_settings request.config) isFound
  exact ⟨sameResult.trans isDone, sameWritten.trans isFormatted⟩

/-- An accepted request has settings, and a text that is blank or a document. -/
theorem Request.exists_text_of_toFormat
    (accepted :
      ((request.toFormat input compact).job.run surroundings).result = .ok ()) :
    ∃ found text,
      ((settings request.config).run surroundings).result = .ok found ∧
      surroundings.text (.ofPath input) = .ok text ∧
      Json.fault? text = none := by
  obtain ⟨found, isFound, accepted, _⟩ :=
    (isSilent_settings request.config).exists_of_run_bind accepted
  obtain ⟨text, isText, noFault⟩ := exists_text_of_formatting accepted
  exact ⟨found, text, isFound, isText, noFault⟩

/-- A request that is accepted for a text is accepted for what it wrote, with
the same file of settings. It writes the same again, but for one more newline
after a blank text. -/
theorem formatting_keeps_its_output
    (accepted :
      ((request.toFormat input compact).job.run surroundings).result = .ok ())
    (sameSettings : ∀ path ∈ request.config,
      later.text (.file path) = surroundings.text (.file path))
    (isOutput : later.text (.ofPath again) =
      .ok ((request.toFormat input compact).job.run surroundings).written) :
    ∃ text, surroundings.text (.ofPath input) = .ok text ∧
      let written :=
        ((request.toFormat input compact).job.run surroundings).written
      let repeated := (request.toFormat again compact).job.run later
      repeated.result = .ok () ∧
        repeated.written =
          if Text.isAllBlank text then written ++ ['\n'] else written := by
  obtain ⟨found, text, isFound, isText, noFault⟩ :=
    Request.exists_text_of_toFormat accepted
  obtain ⟨_, isFormatted⟩ :=
    @Request.run_toFormat _ _ _ compact request _ isFound isText noFault
  -- the settings are the same again, and what was written has no fault either
  rw [← run_settings_eq sameSettings] at isFound
  rw [isFormatted] at isOutput
  obtain ⟨isDone, isRepeated⟩ :=
    @Request.run_toFormat _ _ _ compact request _ isFound isOutput
      (fault?_formatted noFault compact)
  refine ⟨text, isText, isDone, ?_⟩
  rw [isRepeated, isFormatted, formatted_formatted noFault]

/-- A file that is not blank, with a file of settings, read again from the
standard input. -/
theorem formatting_keeps_its_output_document :
    let request : Request := ⟨some "c.toml", 0, .templates⟩
    let surroundings : Surroundings :=
      ⟨fun source => .ok (if source = .file "c.toml" then [] else " [1 ,2]"), 0⟩
    let later : Surroundings :=
      ⟨fun source => .ok (if source = .input then "[1,2]\n" else []), 0⟩
    let outcome := (request.toFormat "doc.json" true).job.run surroundings
    let repeated := (request.toFormat "-" true).job.run later
    outcome.result = .ok () ∧
      (∀ path ∈ request.config,
        later.text (.file path) = surroundings.text (.file path)) ∧
      later.text (.ofPath "-") = .ok outcome.written ∧
      repeated.result = .ok () ∧ repeated.written = outcome.written := by
  intro request surroundings later outcome repeated
  have accepted : outcome.result = .ok () := by decide +kernel
  have sameSettings : ∀ path ∈ request.config,
      later.text (.file path) = surroundings.text (.file path) := by
    rintro _ ⟨⟩
    rfl
  have isOutput : later.text (.ofPath "-") = .ok outcome.written := by
    decide +kernel
  obtain ⟨text, isText, isDone, isRepeated⟩ :=
    formatting_keeps_its_output accepted sameSettings isOutput
  cases isText
  rw [if_neg (by decide +kernel)] at isRepeated
  exact ⟨accepted, sameSettings, isOutput, isDone, isRepeated⟩

/-- An empty file is written as one newline, and this output as two. -/
theorem formatting_lengthens_blank_output :
    let request : Request := ⟨none, 0, .format "doc.json" false⟩
    let outcome := request.job.run ⟨fun _ => .ok [], 0⟩
    let repeated := request.job.run ⟨fun _ => .ok outcome.written, 0⟩
    outcome.result = .ok () ∧ repeated.result = .ok () ∧
      outcome.written = ['\n'] ∧ repeated.written = ['\n', '\n'] ∧
      repeated.written ≠ outcome.written := by
  decide +kernel

end Formatting

end Command
end CellPreview
