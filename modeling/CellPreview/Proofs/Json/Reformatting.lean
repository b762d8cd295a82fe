import CellPreview.Proofs.Json.ReadBack

/-!
# Reformatting

Reformatting a document changes its layout only: the value that is read stays
the same. So of two reformattings one after the other the second decides, also
for a text that is no document, which both leave as it is.
-/

namespace CellPreview
namespace Json

/-! ## One line -/

namespace Value

variable {levels : Nat}

theorem newline_notMem_toText
    {number : Number}
    (inRange : number.fits) :
    '\n' ∉ number.toText := by
  intro present
  exact absurd (Number.isNumeralChar_of_mem_toText inRange '\n' present)
    (by decide)

theorem newline_notMem_compactItems
    {items : List Value}
    (each : ∀ item ∈ items, '\n' ∉ item.compact) :
    '\n' ∉ compactItems items ∧ '\n' ∉ compactMoreItems items := by
  induction items with
  | nil => simp [compactItems, compactMoreItems]
  | cons item others inductionHypothesis =>
      rw [List.forall_mem_cons] at each
      simp [compactItems, compactMoreItems, each.1,
        (inductionHypothesis each.2).2]

theorem newline_notMem_compactFields
    {fields : List (Text × Value)}
    (each : ∀ field ∈ fields, '\n' ∉ field.2.compact) :
    '\n' ∉ compactFields fields ∧ '\n' ∉ compactMoreFields fields := by
  induction fields with
  | nil => simp [compactFields, compactMoreFields]
  | cons field others inductionHypothesis =>
      rw [List.forall_mem_cons] at each
      simp [compactFields, compactMoreFields, newline_notMem_quotedText, each.1,
        (inductionHypothesis each.2).2]

/-- A value without spaces is written on one line. -/
theorem newline_notMem_compact
    {value : Value}
    (readable : value.isReadable levels) :
    '\n' ∉ value.compact := by
  induction value using Value.induction generalizing levels with
  | null => decide
  | bool truth => cases truth <;> decide
  | number numeral => exact newline_notMem_toText readable
  | text content => exact newline_notMem_quotedText content
  | list items inductionHypothesis =>
      cases levels with
      | zero => cases readable
      | succ levels =>
          rw [isReadable_list] at readable
          have inside := newline_notMem_compactItems fun item present =>
            inductionHypothesis item present (readable item present)
          simp [compact, inside.1]
  | object fields inductionHypothesis =>
      cases levels with
      | zero => cases readable
      | succ levels =>
          rw [isReadable_object] at readable
          have inside := newline_notMem_compactFields fun field present =>
            inductionHypothesis field present (readable.2 field present)
          simp [compact, inside.1]

end Value

/-! ## One way of writing after another -/

section Writing

variable {write : Value -> Text} {text : Text} {value : Value}

theorem reformatWith_of_read_eq_ok
    (write : Value -> Text)
    (isRead : read text = .ok value) :
    reformatWith write text = write value := by
  rw [reformatWith, isRead]

theorem reformatWith_of_read_eq_error
    {fault : Fault}
    (write : Value -> Text)
    (isRead : read text = .error fault) :
    reformatWith write text = text := by
  rw [reformatWith, isRead]

/-- What is written can be read again. -/
def ReadsAgain (write : Value -> Text) : Prop :=
  ∀ value, value.isReadable nestingLimit -> read (write value) = .ok value

theorem readsAgain_pretty : ReadsAgain Value.pretty :=
  fun _ => read_pretty

theorem readsAgain_compact : ReadsAgain Value.compact :=
  fun _ => read_compact

/-- A reformatted text is read as the same value, or refused with the same
fault. -/
theorem ReadsAgain.read_reformatWith
    (readsAgain : ReadsAgain write)
    (text : Text) :
    read (reformatWith write text) = read text := by
  cases isRead : read text with
  | error fault => rw [reformatWith_of_read_eq_error write isRead, isRead]
  | ok value =>
      rw [reformatWith_of_read_eq_ok write isRead,
        readsAgain value (isReadable_of_read isRead)]

/-- Of two reformattings the second decides. -/
theorem ReadsAgain.reformatWith_reformatWith
    (readsAgain : ReadsAgain write)
    (other : Value -> Text)
    (text : Text) :
    reformatWith other (reformatWith write text) = reformatWith other text := by
  cases isRead : read text with
  | error fault => rw [reformatWith_of_read_eq_error write isRead]
  | ok value =>
      rw [reformatWith_of_read_eq_ok other isRead]
      apply reformatWith_of_read_eq_ok
      rw [readsAgain.read_reformatWith, isRead]

theorem read_beautify (text : Text) : read (beautify text) = read text :=
  readsAgain_pretty.read_reformatWith text

theorem read_minify (text : Text) : read (minify text) = read text :=
  readsAgain_compact.read_reformatWith text

theorem newline_notMem_minify
    (isRead : read text = .ok value) :
    '\n' ∉ minify text := by
  rw [minify, reformatWith_of_read_eq_ok _ isRead]
  exact Value.newline_notMem_compact (isReadable_of_read isRead)

theorem beautify_minify (text : Text) : beautify (minify text) = beautify text :=
  readsAgain_compact.reformatWith_reformatWith Value.pretty text

theorem minify_beautify (text : Text) : minify (beautify text) = minify text :=
  readsAgain_pretty.reformatWith_reformatWith Value.compact text

theorem beautify_beautify (text : Text) :
    beautify (beautify text) = beautify text :=
  readsAgain_pretty.reformatWith_reformatWith Value.pretty text

theorem minify_minify (text : Text) : minify (minify text) = minify text :=
  readsAgain_compact.reformatWith_reformatWith Value.compact text

end Writing

/-- Both ways of reformatting a document keep its value, and the compact one
puts it on one line. Of any two reformattings the second decides, whether the
text is a document or not. -/
theorem reformatting_preserves_document :
    (∀ text value, read text = .ok value ->
      read (minify text) = .ok value ∧ read (beautify text) = .ok value ∧
        '\n' ∉ minify text) ∧
    ∀ text,
      beautify (beautify text) = beautify text ∧
      minify (minify text) = minify text ∧
      beautify (minify text) = beautify text ∧
      minify (beautify text) = minify text := by
  constructor
  · intro text value isRead
    rw [read_minify, read_beautify]
    exact ⟨isRead, isRead, newline_notMem_minify isRead⟩
  · intro text
    exact ⟨beautify_beautify text, minify_minify text, beautify_minify text,
      minify_beautify text⟩

/-- A document with spaces, an escape, a repeated name, a negative zero and the
largest integer. -/
theorem reformatting_preserves_document_repeated_name :
    let text : Text :=
      "\x7b\"a\" : 1, \"b\" : [-0, 18446744073709551615],\n\"a\" : \"\\u0041\\n\"\x7d"
    let value : Value := .object
      [(['a'], .text ['A', '\n']),
        (['b'], .list [.number (.real (.zero true)),
          .number (.integer 18446744073709551615)])]
    read text = .ok value ∧
      read (minify text) = .ok value ∧ read (beautify text) = .ok value ∧
        '\n' ∉ minify text := by
  intro text value
  -- Values cannot be compared but texts can, and a compact text is read as the
  -- one value it was written from.
  have readable : value.isReadable nestingLimit := by decide +kernel
  have isWritten : minify text = value.compact := by decide +kernel
  have isRead : read text = .ok value := by
    rw [← read_minify, isWritten, read_compact readable]
  exact ⟨isRead, reformatting_preserves_document.1 text value isRead⟩

end Json
end CellPreview
