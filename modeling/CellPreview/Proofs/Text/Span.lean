import CellPreview.Text.Basic
import Mathlib.Data.List.TakeWhile

/-!
# Runs of characters

A run of characters of a class ends where the text goes on with a character that
is not of the class.
-/

namespace CellPreview
namespace Text

/-- A run ends at a character that is not of the class. -/
theorem eq_false_of_dropWhile_eq_cons
    {predicate : Char -> Bool}
    {text rest : Text}
    {first : Char}
    (dropped : text.dropWhile predicate = first :: rest) :
    predicate first = false := by
  have stopped := List.head?_dropWhile_not predicate text
  rw [dropped] at stopped
  exact stopped

/-- All characters of a run are taken up to the first that is none. -/
theorem span_of_forall
    {predicate : Char -> Bool}
    {run rest : Text}
    (holds : ∀ char ∈ run, predicate char)
    (stops : ∀ char ∈ rest.head?, predicate char = false) :
    (run ++ rest).takeWhile predicate = run ∧
      (run ++ rest).dropWhile predicate = rest := by
  rw [List.takeWhile_append_of_pos holds, List.dropWhile_append_of_pos holds]
  cases rest with
  | nil => simp
  | cons char rest => simp [stops char rfl]

/-- A run of characters ends before every text that starts alike. -/
theorem span_congr
    {predicate : Char -> Bool}
    {run rest other : Text}
    (taken : (run ++ rest).takeWhile predicate = run)
    (alike : rest.head?.any predicate = other.head?.any predicate) :
    (run ++ other).takeWhile predicate = run ∧
      (run ++ other).dropWhile predicate = other := by
  have holds : ∀ char ∈ run, predicate char := by
    intro char present
    rw [← taken] at present
    exact List.mem_takeWhile_imp present
  have stops : rest.head?.any predicate = false := by
    rw [List.takeWhile_append_of_pos holds] at taken
    cases rest with
    | nil => rfl
    | cons char rest =>
        cases starts : predicate char with
        | false => simpa using starts
        | true => simp [starts] at taken
  rw [stops] at alike
  refine span_of_forall holds fun char isFirst => ?_
  rw [Option.mem_def] at isFirst
  simpa [isFirst] using alike.symm

end Text
end CellPreview
