import CellPreview.Command.Job

/-!
# Jobs that write nothing

Most steps of a command write nothing. Behind them only what follows is written,
so a command that succeeds is taken apart step by step. A command that writes in
its last step only has written nothing when it fails.
-/

namespace CellPreview
namespace Command
namespace Job

variable {surroundings : Surroundings}
variable {α β : Type}

/-- Jobs that write nothing. -/
def IsSilent (job : Job α) : Prop :=
  ∀ surroundings, (job.run surroundings).written = []

theorem IsSilent.bind
    {job : Job α}
    {following : α -> Job β}
    (isSilent : job.IsSilent)
    (followingSilent : ∀ result, (following result).IsSilent) :
    (job.bind following).IsSilent := by
  intro surroundings
  rw [run_bind, Outcome.andThen]
  split
  · exact isSilent surroundings
  · simp [isSilent surroundings, followingSilent _ surroundings]

/-- Behind a job that writes nothing, only what follows is written. -/
theorem IsSilent.run_bind
    {job : Job α}
    {following : α -> Job β}
    {first : α}
    (isSilent : job.IsSilent)
    (isFirst : (job.run surroundings).result = .ok first) :
    ((job.bind following).run surroundings).result =
        ((following first).run surroundings).result ∧
      ((job.bind following).run surroundings).written =
        ((following first).run surroundings).written := by
  rw [Job.run_bind, Outcome.andThen, isFirst]
  dsimp only
  rw [isSilent surroundings, List.nil_append]
  exact ⟨rfl, rfl⟩

/-- A job that writes nothing has a result if what it starts succeeds. -/
theorem IsSilent.exists_of_run_bind
    {job : Job α}
    {following : α -> Job β}
    {result : β}
    (isSilent : job.IsSilent)
    (succeeds : ((job.bind following).run surroundings).result = .ok result) :
    ∃ first, (job.run surroundings).result = .ok first ∧
      ((following first).run surroundings).result = .ok result ∧
      ((job.bind following).run surroundings).written =
        ((following first).run surroundings).written := by
  cases isFirst : (job.run surroundings).result with
  | error failure =>
      rw [Job.run_bind, Outcome.andThen, isFirst] at succeeds
      cases succeeds
  | ok first =>
      obtain ⟨sameResult, sameWritten⟩ :=
        @IsSilent.run_bind surroundings _ _ _ following _ isSilent isFirst
      exact ⟨first, rfl, sameResult.symm.trans succeeds, sameWritten⟩

theorem isSilent_done (result : α) : (Job.done result).IsSilent :=
  fun _ => rfl

theorem isSilent_fail (failure : Failure) : (fail failure : Job α).IsSilent :=
  fun _ => rfl

theorem isSilent_textOf (path : Text) (source : Source) :
    (textOf path source).IsSilent := by
  intro surroundings
  rw [textOf, run]
  split <;> rfl

theorem isSilent_document (input : Text) : (document input).IsSilent :=
  isSilent_textOf _ _

theorem isSilent_report (notices : List Notice) : (report notices).IsSilent :=
  fun _ => rfl

theorem isSilent_orFail (failure : Failure) (value : Option α) :
    (orFail failure value).IsSilent := by
  cases value <;> exact fun _ => rfl

theorem result_document
    {input text : Text}
    (isText : surroundings.text (.ofPath input) = .ok text) :
    ((document input).run surroundings).result = .ok text := by
  rw [document, textOf, run, isText]
  rfl

/-- A document that was read is the text of its source. -/
theorem text_of_document_eq_ok
    {input text : Text}
    (found : ((document input).run surroundings).result = .ok text) :
    surroundings.text (.ofPath input) = .ok text := by
  rw [document, textOf, run] at found
  cases read : surroundings.text (.ofPath input) with
  | error fault =>
      rw [read] at found
      cases found
  | ok text =>
      rw [read] at found
      cases found
      rfl

/-- Jobs that write nothing if they fail. What was written before a failure
stays written, so nothing may be written in front of a step that can fail. -/
def FailsSilently (job : Job α) : Prop :=
  ∀ surroundings failure, (job.run surroundings).result = .error failure ->
    (job.run surroundings).written = []

theorem IsSilent.failsSilently
    {job : Job α}
    (isSilent : job.IsSilent) :
    job.FailsSilently :=
  fun surroundings _ _ => isSilent surroundings

theorem failsSilently_put (text : Text) : (put text).FailsSilently :=
  fun _ _ => nofun

/-- Only the last of several steps may write. -/
theorem IsSilent.failsSilently_bind
    {job : Job α}
    {following : α -> Job β}
    (isSilent : job.IsSilent)
    (followingFails : ∀ result, (following result).FailsSilently) :
    (job.bind following).FailsSilently := by
  intro surroundings failure fails
  cases isFirst : (job.run surroundings).result with
  | error cause =>
      rw [Job.run_bind, Outcome.andThen, isFirst]
      exact isSilent surroundings
  | ok first =>
      obtain ⟨sameResult, sameWritten⟩ :=
        @IsSilent.run_bind surroundings _ _ _ following _ isSilent isFirst
      rw [sameWritten]
      exact followingFails first surroundings failure (sameResult.symm.trans fails)

end Job

end Command
end CellPreview
