import CellPreview.Blueprint.Json
import CellPreview.Markup.Html
import CellPreview.Rendering

/-!
# Preview rows

A preview has one row for each sample value, all rendered at the same instant.
A row shows the markup of the sample, nothing when the blueprint has no tag at
its root, or the sample itself when there is no blueprint. Rows are written as
JSON values or as HTML, where a comment stands above each of them.
-/

namespace CellPreview

/-- What a row shows. -/
inductive Cell
  | rendered (node : Markup.Node)
  | blank
  | raw (sample : Text)

/-- One row of a preview. -/
structure Row where
  title : Text
  sample : Text
  cell : Cell

namespace Cell

/-- The cell of a sample. -/
def ofSample (blueprint : Option Blueprint) (now : Int) (sample : Text) :
    Cell :=
  match blueprint with
  | none => .raw sample
  | some blueprint =>
      match blueprint.render ⟨sample, now⟩ with
      | none => .blank
      | some node => .rendered node

/-- The JSON value of a cell. -/
def toValue : Cell -> Json.Value
  | .rendered node =>
      .object (Json.textField "kind" "rendered" ++ Json.oneField "value" node.toValue)
  | .blank => .object (Json.textField "kind" "blank")
  | .raw sample =>
      .object (Json.textField "kind" "raw" ++ Json.textField "value" sample)

/-- The HTML of a cell. -/
def toHtml (tab : Text) : Cell -> Text
  | .rendered node => node.toHtml tab []
  | .blank => []
  | .raw sample => sample

end Cell

namespace Row

/-- Title of the row with a given index. -/
def titleAt (index : Nat) : Text :=
  "Item " ++ Text.ofNat (index + 1)

/-- The rows of some samples, of which the first has a given index. -/
def ofSamplesFrom (blueprint : Option Blueprint) (now : Int) :
    Nat -> List Text -> List Row
  | _, [] => []
  | index, sample :: others =>
      ⟨titleAt index, sample, Cell.ofSample blueprint now sample⟩ ::
        ofSamplesFrom blueprint now (index + 1) others

/-- The rows of some samples. -/
def ofSamples (blueprint : Option Blueprint) (samples : List Text)
    (now : Int) : List Row :=
  ofSamplesFrom blueprint now 0 samples

theorem mem_ofSamplesFrom
    {blueprint : Option Blueprint}
    {now : Int}
    {start : Nat}
    {samples : List Text}
    {row : Row} :
    row ∈ ofSamplesFrom blueprint now start samples ↔
      ∃ index sample, samples[index]? = some sample ∧
        row = ⟨titleAt (start + index), sample,
          Cell.ofSample blueprint now sample⟩ := by
  induction samples generalizing start with
  | nil => simp [ofSamplesFrom]
  | cons first others inductionHypothesis =>
      rw [ofSamplesFrom, List.mem_cons, inductionHypothesis]
      constructor
      · rintro (rfl | ⟨index, sample, isSample, rfl⟩)
        · exact ⟨0, first, rfl, rfl⟩
        · exact ⟨index + 1, sample, isSample, by
            rw [← Nat.add_assoc, Nat.add_right_comm]⟩
      · rintro ⟨_ | index, sample, isSample, rfl⟩
        · cases isSample
          exact .inl rfl
        · exact .inr ⟨index, sample, isSample, by
            rw [← Nat.add_assoc, Nat.add_right_comm]⟩

/-- There is one row for each sample. -/
theorem mem_ofSamples
    {blueprint : Option Blueprint}
    {samples : List Text}
    {now : Int}
    {row : Row} :
    row ∈ ofSamples blueprint samples now ↔
      ∃ index sample, samples[index]? = some sample ∧
        row = ⟨titleAt index, sample, Cell.ofSample blueprint now sample⟩ := by
  rw [ofSamples, mem_ofSamplesFrom]
  simp

/-- The JSON value of a row. -/
def toValue (row : Row) : Json.Value :=
  .object (Json.textField "title" row.title ++
    Json.textField "sample" row.sample ++ Json.oneField "cell" row.cell.toValue)

/-- The JSON value of some rows. -/
def listValue (rows : List Row) : Json.Value :=
  .list (rows.map toValue)

/-- The comment above the HTML of a row. -/
def comment (row : Row) : Text :=
  "<!-- " ++ row.title ++ ": " ++ row.sample ++ " -->"

/-- The HTML of a row, with its comment above it. -/
def toHtml (tab : Text) (row : Row) : Text :=
  row.comment ++ '\n' :: row.cell.toHtml tab ++ ['\n']

/-- The HTML of some rows. -/
def listHtml (tab : Text) (rows : List Row) : Text :=
  rows.flatMap (toHtml tab)

end Row
end CellPreview
