import CellPreview.Proofs.Json.Reformatting
import CellPreview.Proofs.Text.Blank

/-!
# Documents and blank texts

A text that can be read is not blank, so reformatting takes no document to a
blank text or back: the editor finds the same document, or the same fault, in a
reformatted text as in the text before.
-/

namespace CellPreview
namespace Json

variable {text : Text} {value : Value}

/-- No value starts with a blank. -/
theorem isBlank_eq_false_of_valueHere
    {inner : Option (Reading Value)}
    {count : Nat}
    {rest : Text}
    (isRead : valueHere inner count text = .ok (value, rest)) :
    ∃ first others, text = first :: others ∧ Text.isBlank first = false := by
  unfold valueHere at isRead
  split at isRead
  case h_1 => cases isRead
  case h_8 first others _ _ _ _ _ _ =>
    refine ⟨first, others, rfl, ?_⟩
    split at isRead
    next starts =>
      simp only [Bool.or_eq_true, decide_eq_true_eq] at starts
      obtain rfl | isDigit := starts
      · rfl
      · exact Text.isBlank_eq_false_of_isDigit isDigit
    next => cases isRead
  all_goals exact ⟨_, _, rfl, by decide⟩

/-- A text that can be read is not blank. -/
theorem isAllBlank_eq_false_of_read
    (isRead : read text = .ok value) :
    Text.isAllBlank text = false := by
  obtain ⟨rest, valueRead⟩ := exists_value_of_read isRead
  rw [value_eq] at valueRead
  obtain ⟨first, others, starts, notBlank⟩ :=
    isBlank_eq_false_of_valueHere valueRead
  have present : first ∈ skipSpaces text := by
    rw [starts]
    exact List.mem_cons_self
  have present : first ∈ text := (List.dropWhile_suffix isSpace).subset present
  rw [Text.isAllBlank, List.all_eq_false]
  exact ⟨first, present, by simp [notBlank]⟩

/-- Reformatting changes neither the document of a text nor its fault. -/
theorem ReadsAgain.document_reformatWith
    {write : Value -> Text}
    (readsAgain : ReadsAgain write)
    (text : Text) :
    document (reformatWith write text) = document text := by
  cases isRead : read text with
  | error fault => rw [reformatWith_of_read_eq_error write isRead]
  | ok value =>
      have isReadAgain : read (reformatWith write text) = .ok value := by
        rw [readsAgain.read_reformatWith, isRead]
      rw [document, document, isAllBlank_eq_false_of_read isRead,
        isAllBlank_eq_false_of_read isReadAgain, isRead, isReadAgain]

theorem document_beautify (text : Text) :
    document (beautify text) = document text :=
  readsAgain_pretty.document_reformatWith text

theorem document_minify (text : Text) :
    document (minify text) = document text :=
  readsAgain_compact.document_reformatWith text

theorem document_of_read
    (isRead : read text = .ok value) :
    document text = .ok (some value) := by
  rw [document, isAllBlank_eq_false_of_read isRead, isRead]
  rfl

/-- A text has no fault when it is blank or a document. -/
theorem fault?_eq_none_iff :
    fault? text = none ↔
      Text.isAllBlank text ∨ ∃ value, read text = .ok value := by
  cases blank : Text.isAllBlank text <;> cases isRead : read text <;>
    simp [fault?, document, blank, isRead, Except.map]

end Json
end CellPreview
