import CellPreview.Editor.Preview
import CellPreview.Proofs.Markup.Page
import CellPreview.Proofs.Text.Digits
import CellPreview.Proofs.Text.Substitution

/-!
# Pages of preview rows

A sample is written as it is into the comment above its row, and also into the
row when no blueprint is shown. So a page is read back as its rows if no sample
ends its comment and, without a blueprint, none needs to be escaped. Markup that
is made of a sample by a blueprint is safe whatever the sample is.
-/

namespace CellPreview

open Markup

/-- What a reader has to find in a cell. -/
def Cell.fragments : Cell -> List Fragment
  | .rendered node => node.sanitised
  | .blank => []
  | .raw sample => [.text sample]

namespace Row

/-- What a reader has to find in the comment above a row. -/
def commentContent (row : Row) : Text :=
  ' ' :: (row.title ++ ": " ++ row.sample) ++ [' ']

/-- A comment and the forest after it are those of a row, up to the blanks that
an indentation adds. -/
structure IsReadAs (row : Row) (found : Text × List Fragment) : Prop where
  comment : found.1 = row.commentContent
  cell : Fragment.solid found.2 = Fragment.solid row.cell.fragments

/-- A page is read as some rows, one after the other, and nothing else. -/
def AreReadFrom (rows : List Row) (written : Text) : Prop :=
  ∃ found, TagReader.readPage? written = some found ∧
    List.Forall₂ IsReadAs rows found

/-- Rows whose comment ends where it should, and whose sample needs no escaping
where it stands for the cell. -/
structure IsHarmless (row : Row) : Prop where
  comment : TagReader.EndsNoComment (' ' :: (row.title ++ ": " ++ row.sample))
  cell : ∀ sample, row.cell = .raw sample -> escapedText sample = sample

theorem comment_eq (row : Row) :
    row.comment = '<' :: '!' :: '-' :: '-' ::
      (' ' :: (row.title ++ ": " ++ row.sample) ++ [' ', '-', '-', '>']) := by
  have opening : "<!-- ".toList = ['<', '!', '-', '-', ' '] := rfl
  have closing : " -->".toList = [' ', '-', '-', '>'] := rfl
  unfold comment
  -- the separator is the same on both sides, and is not to be spelled out
  generalize ": ".toList = separator
  simp only [opening, closing, List.append_assoc, List.cons_append,
    List.nil_append]

/-- The HTML of a harmless cell spells what it shows. -/
theorem IsHarmless.exists_spells
    {row : Row}
    {tab : Text}
    (isHarmless : row.IsHarmless)
    (tabBlank : ∀ char ∈ tab, Text.isBlank char) :
    ∃ forest, Spells (row.cell.toHtml tab) forest ∧
      Fragment.solid forest = Fragment.solid row.cell.fragments := by
  cases shown : row.cell with
  | rendered node =>
      exact ⟨node.spliced, node.spells_toHtml tabBlank (by simp),
        (Fragment.solid_merged _).symm⟩
  | blank => exact ⟨[], .nil, rfl⟩
  | raw sample =>
      have written := Spells.text sample
      rw [isHarmless.cell sample shown] at written
      exact ⟨[.text sample], written, rfl⟩

/-- A harmless row in front of a page is read as the row. -/
theorem IsHarmless.page_append
    {row : Row}
    {tab rest : Text}
    (isHarmless : row.IsHarmless)
    (tabBlank : ∀ char ∈ tab, Text.isBlank char)
    (startsWithComment : (TagReader.page rest).1 = []) :
    ∃ marks fragments,
      TagReader.page (row.toHtml tab ++ rest) =
        ([], (row.commentContent, marks) :: (TagReader.page rest).2) ∧
      TagReader.forest? [] [] marks = some fragments ∧
      row.IsReadAs (row.commentContent, fragments) := by
  obtain ⟨forest, spelled, same⟩ := isHarmless.exists_spells tabBlank
  have newlineBlank : ∀ char ∈ ['\n'], Text.isBlank char :=
    List.forall_mem_cons.mpr ⟨rfl, nofun⟩
  -- the cell is on lines of its own, between the comment and the next row
  have lines := (Spells.blank_append newlineBlank spelled).append_blank
    newlineBlank
  have startsWithTag : TagReader.StartsWithTag (TagReader.page rest).1 := by
    intro raw others isText
    rw [startsWithComment] at isText
    cases isText
  obtain ⟨marks, fragments, read, made, solid⟩ :=
    lines.exists_read TagReader.readsMarks_page startsWithTag
  refine ⟨marks, fragments, ?_, made, rfl, solid.trans same⟩
  have shape : row.toHtml tab ++ rest =
      '<' :: '!' :: '-' :: '-' :: (' ' :: (row.title ++ ": " ++ row.sample) ++
        ' ' :: '-' :: '-' :: '>' ::
          (['\n'] ++ row.cell.toHtml tab ++ ['\n'] ++ rest)) := by
    rw [toHtml, comment_eq]
    simp only [List.append_assoc, List.cons_append, List.nil_append]
  rw [shape, TagReader.page_comment, isHarmless.comment.comment_append, read,
    startsWithComment, List.append_nil]
  rfl

/-- A page of harmless rows is read as these rows. -/
theorem areReadFrom_listHtml
    {rows : List Row}
    {tab : Text}
    (tabBlank : ∀ char ∈ tab, Text.isBlank char)
    (areHarmless : ∀ row ∈ rows, row.IsHarmless) :
    AreReadFrom rows (listHtml tab rows) := by
  have read : ∃ sections found,
      TagReader.page (listHtml tab rows) = ([], sections) ∧
      TagReader.forests? sections = some found ∧
      List.Forall₂ IsReadAs rows found := by
    induction rows with
    | nil => exact ⟨[], [], by simp [listHtml, TagReader.page], rfl, .nil⟩
    | cons row others inductionHypothesis =>
        obtain ⟨isHarmless, othersHarmless⟩ :=
          List.forall_mem_cons.mp areHarmless
        obtain ⟨sections, found, isPage, made, areRead⟩ :=
          inductionHypothesis othersHarmless
        obtain ⟨marks, fragments, startsPage, rowMade, isRead⟩ :=
          isHarmless.page_append tabBlank (congrArg Prod.fst isPage)
        refine ⟨_, _, startsPage, ?_, .cons isRead areRead⟩
        rw [isPage, TagReader.forests?, rowMade, made]
  obtain ⟨sections, found, isPage, made, areRead⟩ := read
  exact ⟨found, by rw [TagReader.readPage?, isPage]; exact made, areRead⟩

/-- When a page is read as its rows, no sample ends the comment above its row. -/
theorem AreReadFrom.endsNoComment_sample
    {rows : List Row}
    {written : Text}
    (areRead : AreReadFrom rows written) :
    ∀ row ∈ rows, TagReader.EndsNoComment row.sample := by
  obtain ⟨found, isPage, areRead⟩ := areRead
  have endNone := TagReader.endsNoComment_of_readPage? isPage
  clear isPage
  induction areRead with
  | nil => exact nofun
  | @cons row read rows found isRead _ inductionHypothesis =>
      obtain ⟨endsNone, othersEndNone⟩ := List.forall_mem_cons.mp endNone
      refine List.forall_mem_cons.mpr ⟨?_, inductionHypothesis othersEndNone⟩
      rw [isRead.comment] at endsNone
      exact endsNone.of_isInfix ⟨' ' :: (row.title ++ ": "), [' '],
        congrArg (· ++ [' ']) List.cons_append⟩

/-! ## Rows of samples -/

/-- What stands before a sample has none of the characters that end comments. -/
theorem notMem_of_mem_titleAt_append
    {index : Nat}
    {char : Char}
    (present : char ∈ ' ' :: (titleAt index ++ ": ")) :
    ∀ ending ∈ TagReader.commentEnds, char ∉ ending := by
  have foreign (word : Text) (isForeign : word.all fun other =>
        decide (∀ ending ∈ TagReader.commentEnds, other ∉ ending))
      (inWord : char ∈ word) :
      ∀ ending ∈ TagReader.commentEnds, char ∉ ending :=
    of_decide_eq_true (List.all_eq_true.mp isForeign char inWord)
  obtain isBlank | present := List.mem_cons.mp present
  · exact foreign [' '] (by decide) (List.mem_singleton.mpr isBlank)
  obtain inTitle | isSeparator := List.mem_append.mp present
  obtain inWord | inNumeral := List.mem_append.mp inTitle
  · exact foreign "Item " (by decide) inWord
  · have noDigit : ∀ ending ∈ TagReader.commentEnds,
        ending.all fun other => !other.isDigit := by decide
    intro ending isEnding inEnding
    have notDigit := List.all_eq_true.mp (noDigit ending isEnding) char inEnding
    rw [Text.isDigit_of_mem_ofNat inNumeral] at notDigit
    cases notDigit
  · exact foreign ": " (by decide) isSeparator

/-- The title in front of a sample ends no comment. -/
theorem endsNoComment_titleAt_append
    {sample : Text}
    (endsNone : TagReader.EndsNoComment sample)
    (index : Nat) :
    TagReader.EndsNoComment (' ' :: (titleAt index ++ ": " ++ sample)) := by
  have nonempty : ∀ ending ∈ TagReader.commentEnds, ending ≠ [] := by decide
  intro ending isEnding inside
  rw [← List.cons_append] at inside
  exact endsNone ending isEnding
    (Text.isInfix_of_append (nonempty ending isEnding)
      (fun _ before => notMem_of_mem_titleAt_append before ending isEnding)
      inside)

end Row

/-- Samples that end no comment, and that need no escaping unless a blueprint
shows them. -/
structure IsHarmlessSample
    (blueprint : Option Blueprint)
    (sample : Text) : Prop where
  comment : TagReader.EndsNoComment sample
  raw : blueprint = none -> escapedText sample = sample

theorem IsHarmlessSample.isHarmless
    {blueprint : Option Blueprint}
    {sample : Text}
    (isHarmless : IsHarmlessSample blueprint sample)
    (index : Nat)
    (now : Int) :
    Row.IsHarmless
      ⟨Row.titleAt index, sample, Cell.ofSample blueprint now sample⟩ where
  comment := Row.endsNoComment_titleAt_append isHarmless.comment index
  cell shown isRaw := by
    unfold Cell.ofSample at isRaw
    cases blueprint with
    | none =>
        cases isRaw
        exact isHarmless.raw rfl
    | some blueprint =>
        dsimp only at isRaw
        split at isRaw <;> cases isRaw

section

variable {blueprint : Option Blueprint}
variable {samples : List Text}
variable {now : Int}

theorem Row.isHarmless_of_mem_ofSamples
    (areHarmless : ∀ sample ∈ samples, IsHarmlessSample blueprint sample) :
    ∀ row ∈ ofSamples blueprint samples now, row.IsHarmless := by
  intro row present
  obtain ⟨index, sample, isSample, rfl⟩ := mem_ofSamples.mp present
  exact (areHarmless sample (List.mem_of_getElem? isSample)).isHarmless index now

/-- When a page is read as the rows of some samples, none of them ends a
comment. -/
theorem Row.AreReadFrom.endsNoComment
    {written : Text}
    (areRead : AreReadFrom (ofSamples blueprint samples now) written) :
    ∀ sample ∈ samples, TagReader.EndsNoComment sample := by
  intro sample present
  obtain ⟨index, isSample⟩ := List.mem_iff_getElem?.mp present
  exact areRead.endsNoComment_sample _
    (mem_ofSamples.mpr ⟨index, sample, isSample, rfl⟩)

end

end CellPreview
