import CellPreview.Proofs.Command.Formatting
import CellPreview.Proofs.Command.Rendering
import CellPreview.Proofs.Editor.LastGood

/-!
# Samples of a rendering

To render a document, a profile is selected first, and its own document comes
into the editor with it. The text that is set afterwards replaces that document
if it can be read, and ends the command if it cannot. So nothing but the samples
is left of the profile in what the command writes.
-/

namespace CellPreview

/-! ## The selected profile -/

namespace Profile

variable {profiles : List Profile} {profile : Profile}

/-- The profile of a name, or the first one without a name. -/
def selected? (profiles : List Profile) : Option Text -> Option Profile
  | none => profiles.head?
  | some name => find? profiles name

/-- The samples that are previewed with a profile. -/
def shownSamples (profile : Profile) : List Text :=
  if profile.samples.isEmpty then [Editor.defaultSample] else profile.samples

/-- A profile behind the builtin ones is selected by a name that none of these
goes by. -/
theorem selected?_builtin_append
    {name : Text}
    (unknown : ∀ known ∈ builtin, ¬known.isNamed name)
    (isNamed : profile.isNamed name)
    (others : List Profile) :
    selected? (builtin ++ profile :: others) (some name) = some profile := by
  rw [selected?, find?, List.find?_append, List.find?_eq_none.mpr unknown,
    Option.none_or, List.find?_cons_of_pos isNamed]

theorem exists_index_of_find?
    {name : Text}
    (found : find? profiles name = some profile) :
    ∃ index, findIndex? profiles name = some index ∧
      profiles[index]? = some profile := by
  rw [find?, List.find?_eq_bind_findIdx?_getElem?] at found
  exact Option.bind_eq_some_iff.mp found

end Profile

namespace Editor

variable {editor : Editor} {profile : Profile}

theorem profile?_start (profiles : List Profile) :
    (start profiles).profile? = profiles.head? := by
  rw [profile?, start, setText_profiles, setText_selected,
    List.head?_eq_getElem?]

/-- A new text changes neither the profiles nor the selection. -/
@[simp] theorem profile?_setText (editor : Editor) (text : Text) :
    (editor.setText text).profile? = editor.profile? := by
  rw [profile?, setText_profiles, setText_selected, profile?]

theorem exists_select?_of_getElem?
    {index : Nat}
    (found : editor.profiles[index]? = some profile) :
    ∃ applied, editor.select? index = some applied ∧
      applied.profile? = some profile := by
  refine ⟨_, by rw [select?, found]; rfl, ?_⟩
  rw [profile?_setText]
  exact found

theorem samples_of_profile?
    (isSelected : editor.profile? = some profile) :
    editor.samples = profile.shownSamples := by
  obtain ⟨name, description, document, samples⟩ := profile
  rw [Editor.samples, isSelected]
  cases samples <;> rfl

end Editor

namespace Command

variable {surroundings : Surroundings}
variable {known : List Profile}
variable {profile : Profile}
variable {name : Option Text}

/-- The profiles of a file stand behind the builtin ones. -/
theorem result_profiles
    {settings : Settings}
    {path text : Text}
    (isFile : settings.profiles = some path)
    (isText : surroundings.text (.file path) = .ok text)
    (areRead : Profile.readAll text = .ok known) :
    ((profiles settings).run surroundings).result =
      .ok (Profile.builtin ++ known) := by
  rw [profiles, isFile]
  simp only [Job.file, Job.textOf, Job.bind_eq, Job.bind, Job.run, isText,
    areRead]
  rfl

/-- The editor that a document is set in has the profile selected. -/
theorem exists_editor_of_selected?
    (isSelected : Profile.selected? known name = some profile) :
    ∃ editor,
      ((editorOn known name).run surroundings).result = .ok editor ∧
        editor.profile? = some profile := by
  cases name with
  | none =>
      refine ⟨.start known, rfl, ?_⟩
      rw [Editor.profile?_start]
      exact isSelected
  | some name =>
      obtain ⟨index, isIndex, atIndex⟩ := Profile.exists_index_of_find? isSelected
      have started : (Editor.start known).profiles = known :=
        Editor.setText_profiles _ _
      rw [← started] at atIndex
      obtain ⟨applied, isApplied, isSelected⟩ :=
        Editor.exists_select?_of_getElem? atIndex
      refine ⟨applied, ?_, isSelected⟩
      simp only [editorOn, Job.bind_eq, Job.report, Job.bind, isIndex,
        Job.orFail, isApplied, Option.getD_some, Job.pure_eq_done, Job.run]

/-! ## What is written -/

/-- What a text is written as in a preview, or its fault if it is no document. -/
def rendered
    (indent : Text)
    (form : OutputFormat)
    (samples : List Text)
    (now : Int)
    (text : Text) : Except Json.Fault Text :=
  (Blueprint.read text).map fun blueprint =>
    page indent form (Row.ofSamples blueprint samples now)

/-- A command writes what it makes of the text of an input. If the text has a
fault, the command fails with this fault and writes nothing. -/
def Outcome.Delivers
    (outcome : Outcome Unit)
    (input : Text) : Except Json.Fault Text -> Prop
  | .ok written => outcome.result = .ok () ∧ outcome.written = written
  | .error fault =>
      outcome.result = .error (.refused input fault) ∧ outcome.written = []

/-- The same is delivered in one way only. -/
theorem Outcome.Delivers.same
    {outcome other : Outcome Unit}
    {input : Text}
    {made : Except Json.Fault Text}
    (delivers : outcome.Delivers input made)
    (otherDelivers : other.Delivers input made) :
    other.result = outcome.result ∧ other.written = outcome.written := by
  cases made with
  | ok written =>
      exact ⟨otherDelivers.1.trans delivers.1.symm,
        otherDelivers.2.trans delivers.2.symm⟩
  | error fault =>
      exact ⟨otherDelivers.1.trans delivers.1.symm,
        otherDelivers.2.trans delivers.2.symm⟩

/-- What a job delivers behind one that writes nothing. -/
theorem Job.IsSilent.delivers_bind
    {α : Type}
    {job : Job α}
    {following : α -> Job Unit}
    {first : α}
    {input : Text}
    {made : Except Json.Fault Text}
    (isSilent : job.IsSilent)
    (isFirst : (job.run surroundings).result = .ok first) :
    ((job.bind following).run surroundings).Delivers input made ↔
      ((following first).run surroundings).Delivers input made := by
  obtain ⟨sameResult, sameWritten⟩ :=
    @IsSilent.run_bind surroundings _ _ _ following _ isSilent isFirst
  cases made <;> rw [Outcome.Delivers, Outcome.Delivers, sameResult, sameWritten]

section

variable {settings : Settings}
variable {options : RenderOptions}
variable {input text : Text}

/-- Samples of a preview: those of the options, unless there are none, and then
those of a profile. -/
def samplesFor (options : RenderOptions) (profile : Profile) : List Text :=
  if options.samples.isEmpty then profile.shownSamples else options.samples

theorem previewSamples_of_profile?
    {editor : Editor}
    (isSelected : editor.profile? = some profile) :
    previewSamples editor options = samplesFor options profile := by
  rw [previewSamples, samplesFor, Editor.samples_of_profile? isSelected]

theorem result_preview (editor : Editor) :
    ((preview editor settings options).run surroundings).result = .ok () := by
  rw [preview, Job.bind_eq, Job.run_bind, run_instant]
  rfl

/-- A document is delivered as its preview with the samples of the selected
profile. -/
theorem delivers_rendering
    (isText : surroundings.text (.ofPath input) = .ok text)
    (areFound :
      ((profiles settings).run surroundings).result = .ok known)
    (isSelected :
      Profile.selected? known (options.template <|> settings.template) =
        some profile) :
    ((rendering settings input options).run surroundings).Delivers input
      (rendered settings.indent (options.output.getD settings.output)
        (samplesFor options profile)
        (previewInstant surroundings settings options) text) := by
  obtain ⟨editor, isEditor, isSelected⟩ :=
    @exists_editor_of_selected? surroundings _ _ _ isSelected
  rw [rendering, Job.bind_eq,
    (Job.isSilent_document input).delivers_bind (Job.result_document isText),
    Job.bind_eq, (isSilent_profiles settings).delivers_bind areFound,
    Job.bind_eq, (isSilent_editorOn known _).delivers_bind isEditor,
    Job.bind_eq, (Job.isSilent_report _).delivers_bind rfl]
  -- the text replaces the document of the profile, or the command ends here
  cases isRead : Blueprint.read text with
  | error fault =>
      rw [Editor.setText, isRead, rendered, isRead]
      exact ⟨rfl, rfl⟩
  | ok blueprint =>
      have noFault : (editor.setText text).fault = none := by
        rw [Editor.setText, isRead]
      have isShown : (editor.setText text).blueprint = blueprint := by
        rw [Editor.setText, isRead]
      have sameProfile := (Editor.profile?_setText editor text).trans isSelected
      rw [noFault, rendered, isRead]
      refine ⟨result_preview _, ?_⟩
      rw [written_preview, previewSamples_of_profile? sameProfile,
        Editor.rowsOf, isShown]

end

/-! ## Requests -/

/-- The settings that a request to render finds, and the profile that it then
selects. -/
structure Request.Selects
    (request : Request)
    (options : RenderOptions)
    (surroundings : Surroundings)
    (found : Settings)
    (profile : Profile) : Prop where
  settings_eq : ((settings request.config).run surroundings).result = .ok found
  exists_profiles : ∃ known,
    ((profiles found).run surroundings).result = .ok known ∧
      Profile.selected? known (options.template <|> found.template) =
        some profile

/-- A request that shares its options with another, to render an input. -/
def Request.toRender
    (request : Request)
    (input : Text)
    (options : RenderOptions) : Request :=
  { request with command := .render input options }

section

variable {later : Surroundings}
variable {request other : Request}
variable {options otherOptions : RenderOptions}
variable {found otherFound : Settings}
variable {otherProfile : Profile}
variable {input text : Text}

theorem Request.Selects.delivers
    (selects : request.Selects options surroundings found profile)
    (isText : surroundings.text (.ofPath input) = .ok text) :
    ((request.toRender input options).job.run surroundings).Delivers input
      (rendered found.indent (options.output.getD found.output)
        (samplesFor options profile)
        (previewInstant surroundings found options) text) := by
  obtain ⟨known, areFound, isSelected⟩ := selects.exists_profiles
  rw [job, Job.bind_eq]
  refine ((isSilent_settings request.config).delivers_bind
    selects.settings_eq).mpr ?_
  exact delivers_rendering isText areFound isSelected

/-- Without a text the request fails, before it looks at any profile. -/
theorem Request.Selects.run_of_unreadable
    {fault : ReadFault}
    (selects : request.Selects options surroundings found profile)
    (isFault : surroundings.text (.ofPath input) = .error fault) :
    ((request.toRender input options).job.run surroundings).result =
        .error (.unreadable input fault) ∧
      ((request.toRender input options).job.run surroundings).written = [] := by
  obtain ⟨sameResult, sameWritten⟩ :=
    @Job.IsSilent.run_bind surroundings _ _ _
      (fun found => Command.job found (.render input options)) _
      (isSilent_settings request.config) selects.settings_eq
  have unread : ((rendering found input options).run surroundings).result =
        .error (.unreadable input fault) ∧
      ((rendering found input options).run surroundings).written = [] := by
    rw [rendering, Job.document, Job.textOf, Job.bind_eq, Job.bind, Job.run,
      isFault]
    exact ⟨rfl, rfl⟩
  exact ⟨sameResult.trans unread.1, sameWritten.trans unread.2⟩

/-- Two requests to render the same text at the same instant and in the same
form come out the same if they have the same samples, whatever their profiles
are: both write the page of these samples, or both fail with the fault of the
text. -/
theorem rendering_depends_on_samples
    (selects : request.Selects options surroundings found profile)
    (otherSelects : other.Selects otherOptions later otherFound otherProfile)
    (sameText :
      later.text (.ofPath input) = surroundings.text (.ofPath input))
    (sameInstant : previewInstant later otherFound otherOptions =
      previewInstant surroundings found options)
    (sameForm : otherOptions.output.getD otherFound.output =
      options.output.getD found.output)
    (sameIndent : otherFound.indent = found.indent)
    (sameSamples : otherOptions.samples = options.samples)
    (sameProfileSamples :
      options.samples = [] -> otherProfile.samples = profile.samples) :
    let outcome := (request.toRender input options).job.run surroundings
    let repeated := (other.toRender input otherOptions).job.run later
    repeated.result = outcome.result ∧ repeated.written = outcome.written ∧
      ∀ text, surroundings.text (.ofPath input) = .ok text ->
        outcome.Delivers input
          (rendered found.indent (options.output.getD found.output)
            (samplesFor options profile)
            (previewInstant surroundings found options) text) := by
  have samples_eq :
      samplesFor otherOptions otherProfile = samplesFor options profile := by
    rw [samplesFor, samplesFor, sameSamples]
    split
    next isEmpty =>
      rw [Profile.shownSamples, Profile.shownSamples,
        sameProfileSamples (List.isEmpty_iff.mp isEmpty)]
    next => rfl
  intro outcome repeated
  cases isText : surroundings.text (.ofPath input) with
  | error fault =>
      obtain ⟨fails, isSilent⟩ := selects.run_of_unreadable isText
      obtain ⟨otherFails, otherIsSilent⟩ :=
        otherSelects.run_of_unreadable (sameText.trans isText)
      exact ⟨otherFails.trans fails.symm, otherIsSilent.trans isSilent.symm,
        nofun⟩
  | ok text =>
      have delivers := selects.delivers isText
      have otherDelivers := otherSelects.delivers (sameText.trans isText)
      rw [sameIndent, sameForm, samples_eq, sameInstant] at otherDelivers
      obtain ⟨sameResult, sameWritten⟩ := delivers.same otherDelivers
      refine ⟨sameResult, sameWritten, ?_⟩
      rintro _ ⟨⟩
      exact delivers

/-- A profile of the same name in two files, with the same sample in both. -/
theorem rendering_depends_on_samples_file :
    let document : Text :=
      "\x7b\"elmType\":\"b\",\"txtContent\":\"@currentField\"\x7d"
    let listed (document : Json.Value) : Profile :=
      ⟨['N'], [], document, [['1']]⟩
    let surroundings (profiles : Text) : Surroundings := ⟨fun source => .ok <|
      if source = .file "c.toml" then "profiles=\"p\""
      else if source = .file "p" then profiles
      else document, 7⟩
    let first := surroundings ['[', '[', '"', 'N', '"', ',', '"', '"', ',',
      '{', '}', ',', '[', '"', '1', '"', ']', ']', ']']
    let later := surroundings ['[', '[', '"', 'N', '"', ',', '"', '"', ',',
      '[', ']', ',', '[', '"', '1', '"', ']', ']', ']']
    let request : Request := ⟨some "c.toml", 0, .templates⟩
    let options : RenderOptions := ⟨some ['n'], [], none, none⟩
    let found : Settings := { Settings.default with profiles := some "p" }
    let outcome := (request.toRender "d.json" options).job.run first
    let repeated := (request.toRender "d.json" options).job.run later
    request.Selects options first found (listed (.object [])) ∧
      request.Selects options later found (listed (.list [])) ∧
      later.text (.ofPath "d.json") = first.text (.ofPath "d.json") ∧
      repeated.result = outcome.result ∧
      repeated.written = outcome.written := by
  intro document listed surroundings first later request options found outcome
    repeated
  have selected (document : Json.Value) :
      Profile.selected? (Profile.builtin ++ [listed document]) (some ['n']) =
        some (listed document) :=
    Profile.selected?_builtin_append (by decide +kernel) rfl []
  have selects : request.Selects options first found (listed (.object [])) :=
    ⟨by decide +kernel, _,
      result_profiles rfl rfl (by with_unfolding_all rfl), selected _⟩
  have otherSelects : request.Selects options later found (listed (.list [])) :=
    ⟨by decide +kernel, _,
      result_profiles rfl rfl (by with_unfolding_all rfl), selected _⟩
  have sameText :
      later.text (.ofPath "d.json") = first.text (.ofPath "d.json") := rfl
  obtain ⟨sameResult, sameWritten, _⟩ :=
    rendering_depends_on_samples selects otherSelects sameText rfl rfl rfl rfl
      (fun _ => rfl)
  exact ⟨selects, otherSelects, sameText, sameResult, sameWritten⟩

end

end Command
end CellPreview
