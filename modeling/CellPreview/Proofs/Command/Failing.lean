import CellPreview.Proofs.Command.Samples

/-!
# Commands that fail

Every command writes in its last step only, and this step cannot fail. So a
command that fails has written nothing. The commands that take a document look
for its fault in different ways, one of them through an editor, and accept the
same texts.
-/

namespace CellPreview
namespace Command

/-! ## Nothing is written -/

theorem isSilent_instant (given : Option Int) (settings : Settings) :
    (instant given settings).IsSilent := by
  intro surroundings
  rw [run_instant]

theorem failsSilently_validation (input : Text) :
    (validation input).FailsSilently := by
  refine (Job.isSilent_document input).failsSilently_bind fun text => ?_
  cases Json.fault? text with
  | some fault => exact (Job.isSilent_fail _).failsSilently
  | none => exact Job.failsSilently_put _

theorem failsSilently_formatting (input : Text) (compact : Bool) :
    (formatting input compact).FailsSilently := by
  refine (Job.isSilent_document input).failsSilently_bind fun text => ?_
  cases Json.fault? text with
  | some fault => exact (Job.isSilent_fail _).failsSilently
  | none => exact Job.failsSilently_put _

theorem failsSilently_preview
    (editor : Editor)
    (settings : Settings)
    (options : RenderOptions) :
    (preview editor settings options).FailsSilently := by
  refine (isSilent_instant _ _).failsSilently_bind fun now => ?_
  refine (Job.isSilent_report _).failsSilently_bind fun _ => ?_
  exact (Job.isSilent_report _).failsSilently_bind fun _ =>
    Job.failsSilently_put _

theorem failsSilently_rendering
    (settings : Settings)
    (input : Text)
    (options : RenderOptions) :
    (rendering settings input options).FailsSilently := by
  refine (Job.isSilent_document input).failsSilently_bind fun text => ?_
  refine (isSilent_profiles settings).failsSilently_bind fun known => ?_
  refine (isSilent_editorOn known _).failsSilently_bind fun editor => ?_
  refine (Job.isSilent_report _).failsSilently_bind fun _ => ?_
  cases (editor.setText text).fault with
  | some fault => exact (Job.isSilent_fail _).failsSilently
  | none => exact failsSilently_preview _ settings options

theorem failsSilently_job (settings : Settings) (command : Command) :
    (job settings command).FailsSilently := by
  cases command with
  | validate input => exact failsSilently_validation input
  | format input compact => exact failsSilently_formatting input compact
  | render input options => exact failsSilently_rendering settings input options
  | templates =>
      exact (isSilent_profiles settings).failsSilently_bind fun _ =>
        Job.failsSilently_put _
  | template name =>
      refine (isSilent_profiles settings).failsSilently_bind fun known => ?_
      exact (Job.isSilent_orFail _ _).failsSilently_bind fun _ =>
        Job.failsSilently_put _

theorem Request.failsSilently (request : Request) :
    request.job.FailsSilently :=
  (isSilent_settings request.config).failsSilently_bind fun found =>
    failsSilently_job found request.command

/-! ## Accepted texts -/

/-- An input whose text can be read and has no fault. -/
def Surroundings.Accepts (surroundings : Surroundings) (input : Text) : Prop :=
  ∃ text, surroundings.text (.ofPath input) = .ok text ∧
    Json.fault? text = none

/-- What a request to render finds before it looks at its document: settings,
and profiles with one among them for the name that is given, if there is one. -/
structure Request.Finds
    (request : Request)
    (options : RenderOptions)
    (surroundings : Surroundings)
    (found : Settings)
    (known : List Profile) : Prop where
  settings_eq : ((settings request.config).run surroundings).result = .ok found
  profiles_eq : ((profiles found).run surroundings).result = .ok known
  isKnown : ∀ name ∈ options.template <|> found.template,
    ∃ profile ∈ known, profile.isNamed name

/-- A request that shares its options with another, to check an input. -/
def Request.toValidate (request : Request) (input : Text) : Request :=
  { request with command := .validate input }

section Acceptance

variable {surroundings : Surroundings}
variable {found : Settings}
variable {known : List Profile}
variable {profile : Profile}
variable {request : Request}
variable {options : RenderOptions}
variable {input : Text}

theorem result_validation_eq_ok_iff :
    ((validation input).run surroundings).result = .ok () ↔
      surroundings.Accepts input := by
  rw [validation, Job.document, Job.textOf, Job.bind_eq, Job.bind, Job.run,
    Surroundings.Accepts]
  cases surroundings.text (.ofPath input) with
  | error fault => simp [Job.bind, Job.run]
  | ok text =>
      cases isFault : Json.fault? text <;>
        simp [Job.bind, Job.run, Job.put, isFault]

theorem result_formatting_eq_ok_iff {compact : Bool} :
    ((formatting input compact).run surroundings).result = .ok () ↔
      surroundings.Accepts input := by
  constructor
  · exact exists_text_of_formatting
  · rintro ⟨text, isText, noFault⟩
    exact (run_formatting isText noFault).1

/-- The builtin profiles stand in front of all others. -/
theorem exists_append_of_profiles
    (areFound : ((profiles found).run surroundings).result = .ok known) :
    ∃ others, known = Profile.builtin ++ others := by
  unfold profiles at areFound
  split at areFound
  next =>
    cases areFound
    exact ⟨[], (List.append_nil _).symm⟩
  next path _ =>
    obtain ⟨text, _, areFound, _⟩ :=
      (Job.isSilent_textOf _ _).exists_of_run_bind areFound
    split at areFound
    next others _ =>
      cases areFound
      exact ⟨others, rfl⟩
    next => cases areFound

/-- There is a profile to select, since there are always the builtin ones. -/
theorem Request.Finds.exists_selects
    (finds : request.Finds options surroundings found known) :
    ∃ profile, request.Selects options surroundings found profile := by
  have isSelected : ∃ profile,
      Profile.selected? known (options.template <|> found.template) =
        some profile := by
    cases isName : options.template <|> found.template with
    | none =>
        obtain ⟨others, rfl⟩ := exists_append_of_profiles finds.profiles_eq
        exact ⟨_, rfl⟩
    | some name =>
        obtain ⟨profile, present, isNamed⟩ := finds.isKnown name isName
        exact Option.isSome_iff_exists.mp
          (List.find?_isSome.mpr ⟨profile, present, isNamed⟩)
  obtain ⟨profile, isSelected⟩ := isSelected
  exact ⟨profile, finds.settings_eq, known, finds.profiles_eq, isSelected⟩

/-- What a command makes of the settings decides what the request comes to. -/
theorem Request.result_job
    (isFound : ((settings request.config).run surroundings).result = .ok found) :
    (request.job.run surroundings).result =
      ((Command.job found request.command).run surroundings).result :=
  (Job.IsSilent.run_bind (isSilent_settings request.config) isFound).1

theorem exists_rendered_iff
    {indent text : Text}
    {form : OutputFormat}
    {samples : List Text}
    {now : Int} :
    (∃ written, rendered indent form samples now text = .ok written) ↔
      Json.fault? text = none := by
  rw [rendered, Blueprint.read, Json.fault?]
  cases Json.document text <;> simp [Except.map]

theorem Outcome.Delivers.result_eq_ok_iff
    {outcome : Outcome Unit}
    {made : Except Json.Fault Text}
    (delivers : outcome.Delivers input made) :
    outcome.result = .ok () ↔ ∃ written, made = .ok written := by
  cases made with
  | error fault => simp [delivers.1]
  | ok written => simp [delivers.1]

theorem Request.Selects.result_eq_ok_iff
    (selects : request.Selects options surroundings found profile) :
    ((request.toRender input options).job.run surroundings).result = .ok () ↔
      surroundings.Accepts input := by
  rw [Surroundings.Accepts]
  cases isText : surroundings.text (.ofPath input) with
  | error fault => simp [(selects.run_of_unreadable isText).1]
  | ok text =>
      rw [(selects.delivers isText).result_eq_ok_iff, exists_rendered_iff]
      simp

/-- A request that fails has written nothing. Checking, formatting and rendering
an input come to a result for the same texts, if there are settings and a
profile to render with. -/
theorem failing_requests_write_nothing
    (request : Request)
    (surroundings : Surroundings) :
    (∀ failure, (request.job.run surroundings).result = .error failure ->
      (request.job.run surroundings).written = []) ∧
    ∀ options found known, request.Finds options surroundings found known ->
      ∀ input compact,
        let succeeds (request : Request) : Prop :=
          (request.job.run surroundings).result = .ok ()
        (succeeds (request.toValidate input) ↔ surroundings.Accepts input) ∧
        (succeeds (request.toFormat input compact) ↔
          surroundings.Accepts input) ∧
        (succeeds (request.toRender input options) ↔
          surroundings.Accepts input) := by
  refine ⟨request.failsSilently surroundings, ?_⟩
  intro options found known finds input compact succeeds
  obtain ⟨profile, selects⟩ := finds.exists_selects
  refine ⟨?_, ?_, selects.result_eq_ok_iff⟩
  · have sameResult :
        ((request.toValidate input).job.run surroundings).result =
          ((validation input).run surroundings).result :=
      Request.result_job finds.settings_eq
    exact (Eq.congr_left sameResult).trans result_validation_eq_ok_iff
  · have sameResult :
        ((request.toFormat input compact).job.run surroundings).result =
          ((formatting input compact).run surroundings).result :=
      Request.result_job finds.settings_eq
    exact (Eq.congr_left sameResult).trans result_formatting_eq_ok_iff

/-- A text with a fault and one without, with the name of a builtin profile. -/
theorem failing_requests_write_nothing_badge :
    let request : Request := ⟨none, 0, .render "a.json" ⟨none, [], none, none⟩⟩
    let options : RenderOptions := ⟨some "Yes / No badge", [], none, none⟩
    let surroundings : Surroundings :=
      ⟨fun source => .ok (if source = .file "a.json" then ['['] else ['1']), 0⟩
    let outcome := request.job.run surroundings
    let succeeds (request : Request) : Prop :=
      (request.job.run surroundings).result = .ok ()
    (∃ failure, outcome.result = .error failure) ∧ outcome.written = [] ∧
      request.Finds options surroundings .default Profile.builtin ∧
      succeeds (request.toValidate ['b']) ∧
      succeeds (request.toFormat ['b'] true) ∧
      succeeds (request.toRender ['b'] options) := by
  intro request options surroundings outcome succeeds
  have fails :
      outcome.result = .error (.refused "a.json" ⟨.unfinishedList, 1, 1⟩) := by
    decide +kernel
  have finds : request.Finds options surroundings .default Profile.builtin := by
    refine ⟨rfl, rfl, ?_⟩
    rintro _ ⟨⟩
    exact List.any_eq_true.mp (by decide +kernel)
  have accepts : surroundings.Accepts ['b'] := ⟨['1'], rfl, by decide +kernel⟩
  obtain ⟨isSilent, agree⟩ := failing_requests_write_nothing request surroundings
  obtain ⟨validates, formats, renders⟩ := agree _ _ _ finds ['b'] true
  exact ⟨⟨_, fails⟩, isSilent _ fails, finds, validates.mpr accepts,
    formats.mpr accepts, renders.mpr accepts⟩

end Acceptance

end Command
end CellPreview
