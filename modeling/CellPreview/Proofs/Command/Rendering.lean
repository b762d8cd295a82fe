import CellPreview.Command.Execution
import CellPreview.Proofs.Command.Job

/-!
# The rendering command

A job that renders a document writes nothing but the page at its end, which is
the page of the rows that the editor then shows.
-/

namespace CellPreview
namespace Command

theorem isSilent_profiles (settings : Settings) :
    (profiles settings).IsSilent := by
  unfold profiles
  split
  · exact Job.isSilent_done _
  · refine (Job.isSilent_textOf _ _).bind fun text => ?_
    split
    · exact Job.isSilent_done _
    · exact Job.isSilent_fail _

theorem isSilent_editorOn (profiles : List Profile) (name : Option Text) :
    (editorOn profiles name).IsSilent := by
  unfold editorOn
  refine (Job.isSilent_report _).bind fun _ => ?_
  cases name with
  | none => exact Job.isSilent_done _
  | some name =>
      refine (Job.isSilent_orFail _ _).bind fun index => ?_
      exact (Job.isSilent_report _).bind fun _ => Job.isSilent_done _

theorem run_instant
    (surroundings : Surroundings)
    (given : Option Int)
    (settings : Settings) :
    (instant given settings).run surroundings =
      ⟨[], [], .ok ((given <|> settings.now).getD surroundings.instant)⟩ := by
  unfold instant
  cases given <|> settings.now <;> rfl

/-- Samples of a preview: those of the options, unless there are none. -/
def previewSamples (editor : Editor) (options : RenderOptions) : List Text :=
  if options.samples.isEmpty then editor.samples else options.samples

/-- Instant of a preview: that of the options, or else that of the settings, or
else that of the clock. -/
def previewInstant
    (surroundings : Surroundings)
    (settings : Settings)
    (options : RenderOptions) : Int :=
  (options.now <|> settings.now).getD surroundings.instant

/-- The preview of an editor is written as one page. -/
theorem written_preview
    (surroundings : Surroundings)
    (editor : Editor)
    (settings : Settings)
    (options : RenderOptions) :
    ((preview editor settings options).run surroundings).written =
      page settings.indent (options.output.getD settings.output)
        (editor.rowsOf (previewSamples editor options)
          (previewInstant surroundings settings options)) := by
  rw [preview, Job.bind_eq, Job.run_bind, run_instant]
  exact List.append_nil _

end Command
end CellPreview
