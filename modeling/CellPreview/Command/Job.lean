import CellPreview.Command.Failure
import CellPreview.Command.Path
import CellPreview.Notice.Basic

/-!
# Jobs

A job is a command as it is carried out step by step: it reads texts and the
clock, writes, tells of its work, and comes to a result or fails. What was
written before a failure stays written. Given what a job finds around it, its
outcome is a value, and the outcome of one job followed by another is composed
of the outcomes of both.
-/

namespace CellPreview
namespace Command

/-- Where a text is read from. -/
inductive Source
  | input
  | file (path : Text)
  deriving DecidableEq

namespace Source

/-- The standard input for a hyphen, and otherwise the file of a path. -/
def ofPath (path : Text) : Source :=
  if Path.isHyphen path then input else file path

end Source

/-- A computation that reads, writes and tells, and may fail. -/
inductive Job (α : Type)
  | done (result : α)
  | fail (failure : Failure)
  | write (text : Text) (next : Job α)
  | tell (notices : List Notice) (next : Job α)
  | read (source : Source) (next : Except ReadFault Text -> Job α)
  | clock (next : Int -> Job α)

/-- What a job finds around it. -/
structure Surroundings where
  text : Source -> Except ReadFault Text
  /-- The instant that the clock shows. -/
  instant : Int

/-- What comes out of a job. -/
structure Outcome (α : Type) where
  written : Text
  notices : List Notice
  result : Except Failure α

namespace Job

/-- A job, followed by one that depends on its result. -/
def bind : Job α -> (α -> Job β) -> Job β
  | .done result, following => following result
  | .fail failure, _ => .fail failure
  | .write text next, following => .write text (next.bind following)
  | .tell notices next, following => .tell notices (next.bind following)
  | .read source next, following =>
      .read source fun text => (next text).bind following
  | .clock next, following =>
      .clock fun instant => (next instant).bind following

instance : Monad Job where
  pure := done
  bind := bind

/-- Write a text. -/
def put (text : Text) : Job Unit :=
  .write text (.done ())

/-- Tell notices. -/
def report (notices : List Notice) : Job Unit :=
  .tell notices (.done ())

/-- The instant that the clock shows. -/
def instant : Job Int :=
  .clock .done

/-- The text of a source that goes by a path. -/
def textOf (path : Text) (source : Source) : Job Text :=
  .read source fun
    | .ok text => .done text
    | .error fault => .fail (.unreadable path fault)

/-- The text of a file. -/
def file (path : Text) : Job Text :=
  textOf path (.file path)

/-- The text of a file, or of the standard input for a hyphen. -/
def document (path : Text) : Job Text :=
  textOf path (.ofPath path)

/-- A value, or the failure that its absence is. -/
def orFail (failure : Failure) : Option α -> Job α
  | some value => .done value
  | none => .fail failure

/-- The outcome of a job. -/
def run (surroundings : Surroundings) : Job α -> Outcome α
  | .done result => ⟨[], [], .ok result⟩
  | .fail failure => ⟨[], [], .error failure⟩
  | .write text next =>
      let outcome := next.run surroundings
      { outcome with written := text ++ outcome.written }
  | .tell notices next =>
      let outcome := next.run surroundings
      { outcome with notices := notices ++ outcome.notices }
  | .read source next => (next (surroundings.text source)).run surroundings
  | .clock next => (next surroundings.instant).run surroundings

@[simp] theorem pure_eq_done (result : α) :
    (pure result : Job α) = .done result := rfl

@[simp] theorem bind_eq (job : Job α) (following : α -> Job β) :
    job >>= following = job.bind following := rfl

end Job

namespace Outcome

/-- What comes out of a job that follows one with a given outcome. -/
def andThen (outcome : Outcome α) (following : α -> Outcome β) : Outcome β :=
  match outcome.result with
  | .error failure => ⟨outcome.written, outcome.notices, .error failure⟩
  | .ok result =>
      let later := following result
      ⟨outcome.written ++ later.written, outcome.notices ++ later.notices,
        later.result⟩

end Outcome

/-- The outcome of one job followed by another. -/
theorem Job.run_bind (surroundings : Surroundings) (job : Job α)
    (following : α -> Job β) :
    (job.bind following).run surroundings =
      (job.run surroundings).andThen fun result =>
        (following result).run surroundings := by
  induction job with
  | done result => simp [bind, run, Outcome.andThen]
  | fail failure => rfl
  | write text next inductionHypothesis =>
      simp only [bind, run, inductionHypothesis, Outcome.andThen]
      cases (next.run surroundings).result <;> simp
  | tell notices next inductionHypothesis =>
      simp only [bind, run, inductionHypothesis, Outcome.andThen]
      cases (next.run surroundings).result <;> simp
  | read source next inductionHypothesis => exact inductionHypothesis _
  | clock next inductionHypothesis => exact inductionHypothesis _

end Command
end CellPreview
