import CellPreview.Json.Writer
import CellPreview.Proofs.Json.Readable
import CellPreview.Proofs.Json.TextLiteral

/-!
# Layouts of JSON text

The two ways of writing a value differ in the spaces between its parts only. A
layout says which spaces these are, so that one statement about all layouts
covers both.
-/

namespace CellPreview
namespace Json

/-- Texts of spaces between the parts of a JSON text. -/
def IsSpacing (spacing : Text) : Prop :=
  ∀ char ∈ spacing, isSpace char

/-- Which spaces stand between the parts of a written value. -/
structure Layout where
  /-- In front of what is inside of `level` lists and objects. -/
  gap : Nat -> Text
  /-- In front of the value of a field. -/
  afterColon : Text
  isSpacing_gap : ∀ level, IsSpacing (gap level)
  isSpacing_afterColon : IsSpacing afterColon

namespace Layout

/-- No spaces at all. -/
def tight : Layout where
  gap _ := []
  afterColon := []
  isSpacing_gap := by simp [IsSpacing]
  isSpacing_afterColon := by simp [IsSpacing]

@[simp] theorem gap_tight (level : Nat) : tight.gap level = [] := rfl

@[simp] theorem afterColon_tight : tight.afterColon = [] := rfl

/-- A line for each item and for each closing bracket. -/
def indented : Layout where
  gap := newLine
  afterColon := [' ']
  isSpacing_gap := by
    intro level
    refine List.forall_mem_cons.mpr ⟨rfl, fun char present => ?_⟩
    rw [List.eq_of_mem_replicate present]
    rfl
  isSpacing_afterColon := by
    simp [IsSpacing, isSpace]

@[simp] theorem gap_indented (level : Nat) :
    indented.gap level = newLine level := rfl

@[simp] theorem afterColon_indented : indented.afterColon = [' '] := rfl

end Layout

namespace Value

/-- Induction on values, in which a list is preceded by its items and an object
by the values of its fields. -/
@[elab_as_elim]
theorem induction
    {motive : Value -> Prop}
    (null : motive .null)
    (bool : ∀ truth, motive (.bool truth))
    (number : ∀ numeral, motive (.number numeral))
    (text : ∀ content, motive (.text content))
    (list : ∀ items, (∀ item ∈ items, motive item) -> motive (.list items))
    (object : ∀ fields, (∀ field ∈ fields, motive field.2) ->
      motive (.object fields)) :
    ∀ value, motive value
  | .null => null
  | .bool truth => bool truth
  | .number numeral => number numeral
  | .text content => text content
  | .list items =>
      list items fun item _ =>
        induction null bool number text list object item
  | .object fields =>
      object fields fun field _ =>
        induction null bool number text list object field.2
termination_by value => sizeOf value
decreasing_by
  · have smaller := List.sizeOf_lt_of_mem ‹_›
    simp only [Value.list.sizeOf_spec]
    omega
  · have smaller := List.sizeOf_lt_of_mem ‹_›
    have field : sizeOf field.2 < sizeOf field := by
      cases field
      simp only [Prod.mk.sizeOf_spec]
      omega
    simp only [Value.object.sizeOf_spec]
    omega

mutual

/-- A value in a layout, inside of `level` others. -/
def laidOut (layout : Layout) (level : Nat) : Value -> Text
  | .null => "null"
  | .bool truth => if truth then "true" else "false"
  | .number numeral => numeral.toText
  | .text content => quotedText content
  | .list items => '[' :: laidOutItems layout level items
  | .object fields => '{' :: laidOutFields layout level fields

/-- Items of a list in a layout, up to its end. -/
def laidOutItems (layout : Layout) (level : Nat) : List Value -> Text
  | [] => [']']
  | item :: others =>
      layout.gap (level + 1) ++ (item.laidOut layout (level + 1) ++
        laidOutMoreItems layout level others)

/-- Items after the first. -/
def laidOutMoreItems (layout : Layout) (level : Nat) : List Value -> Text
  | [] => layout.gap level ++ [']']
  | item :: others =>
      ',' :: (layout.gap (level + 1) ++ (item.laidOut layout (level + 1) ++
        laidOutMoreItems layout level others))

/-- Fields of an object in a layout, up to its end. -/
def laidOutFields (layout : Layout) (level : Nat) :
    List (Text × Value) -> Text
  | [] => ['}']
  | (name, value) :: others =>
      layout.gap (level + 1) ++ (quotedText name ++ ':' ::
        (layout.afterColon ++ (value.laidOut layout (level + 1) ++
          laidOutMoreFields layout level others)))

/-- Fields after the first. -/
def laidOutMoreFields (layout : Layout) (level : Nat) :
    List (Text × Value) -> Text
  | [] => layout.gap level ++ ['}']
  | (name, value) :: others =>
      ',' :: (layout.gap (level + 1) ++ (quotedText name ++ ':' ::
        (layout.afterColon ++ (value.laidOut layout (level + 1) ++
          laidOutMoreFields layout level others))))

end

/-! ## The two layouts -/

mutual

/-- Writing without spaces is the tight layout, at every level. -/
theorem compact_eq_laidOut (level : Nat) :
    (value : Value) -> value.compact = value.laidOut .tight level
  | .null => rfl
  | .bool _ => rfl
  | .number _ => rfl
  | .text _ => rfl
  | .list items => congrArg ('[' :: ·) (compactItems_eq_laidOut level items)
  | .object fields => congrArg ('{' :: ·) (compactFields_eq_laidOut level fields)

theorem compactItems_eq_laidOut (level : Nat) :
    (items : List Value) ->
      compactItems items = laidOutItems .tight level items
  | [] => rfl
  | item :: others => by
      simp [compactItems, laidOutItems, compact_eq_laidOut (level + 1) item,
        compactMoreItems_eq_laidOut level others]

theorem compactMoreItems_eq_laidOut (level : Nat) :
    (items : List Value) ->
      compactMoreItems items = laidOutMoreItems .tight level items
  | [] => rfl
  | item :: others => by
      simp [compactMoreItems, laidOutMoreItems,
        compact_eq_laidOut (level + 1) item,
        compactMoreItems_eq_laidOut level others]

theorem compactFields_eq_laidOut (level : Nat) :
    (fields : List (Text × Value)) ->
      compactFields fields = laidOutFields .tight level fields
  | [] => rfl
  | (name, value) :: others => by
      simp [compactFields, laidOutFields, compact_eq_laidOut (level + 1) value,
        compactMoreFields_eq_laidOut level others]

theorem compactMoreFields_eq_laidOut (level : Nat) :
    (fields : List (Text × Value)) ->
      compactMoreFields fields = laidOutMoreFields .tight level fields
  | [] => rfl
  | (name, value) :: others => by
      simp [compactMoreFields, laidOutMoreFields,
        compact_eq_laidOut (level + 1) value,
        compactMoreFields_eq_laidOut level others]

end

mutual

/-- Writing over several lines is the indented layout. -/
theorem prettyAt_eq_laidOut (level : Nat) :
    (value : Value) -> value.prettyAt level = value.laidOut .indented level
  | .null => rfl
  | .bool _ => rfl
  | .number _ => rfl
  | .text _ => rfl
  | .list items => congrArg ('[' :: ·) (prettyItems_eq_laidOut level items)
  | .object fields => congrArg ('{' :: ·) (prettyFields_eq_laidOut level fields)

theorem prettyItems_eq_laidOut (level : Nat) :
    (items : List Value) ->
      prettyItems level items = laidOutItems .indented level items
  | [] => rfl
  | item :: others => by
      simp [prettyItems, laidOutItems, prettyAt_eq_laidOut (level + 1) item,
        prettyMoreItems_eq_laidOut level others]

theorem prettyMoreItems_eq_laidOut (level : Nat) :
    (items : List Value) ->
      prettyMoreItems level items = laidOutMoreItems .indented level items
  | [] => rfl
  | item :: others => by
      simp [prettyMoreItems, laidOutMoreItems,
        prettyAt_eq_laidOut (level + 1) item,
        prettyMoreItems_eq_laidOut level others]

theorem prettyFields_eq_laidOut (level : Nat) :
    (fields : List (Text × Value)) ->
      prettyFields level fields = laidOutFields .indented level fields
  | [] => rfl
  | (name, value) :: others => by
      simp [prettyFields, laidOutFields, prettyAt_eq_laidOut (level + 1) value,
        prettyMoreFields_eq_laidOut level others]

theorem prettyMoreFields_eq_laidOut (level : Nat) :
    (fields : List (Text × Value)) ->
      prettyMoreFields level fields = laidOutMoreFields .indented level fields
  | [] => rfl
  | (name, value) :: others => by
      simp [prettyMoreFields, laidOutMoreFields,
        prettyAt_eq_laidOut (level + 1) value,
        prettyMoreFields_eq_laidOut level others]

end

theorem pretty_eq_laidOut (value : Value) :
    value.pretty = value.laidOut .indented 0 :=
  prettyAt_eq_laidOut 0 value

end Value
end Json
end CellPreview
