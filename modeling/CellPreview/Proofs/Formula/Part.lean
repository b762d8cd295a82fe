import CellPreview.Formula.Expr

/-!
# Parts of a formula

The parts of a formula are the formulas at the nodes of its tree, itself
included. A part of joined operands other than the joined formula itself is a
part of one of the operands.
-/

namespace CellPreview
namespace Formula
namespace Expr

/-- The formulas directly under a node of the tree. -/
def children : Expr -> List Expr
  | .concat parts => parts
  | .add left right => [left, right]
  | .compare _ left right => [left, right]
  | .choose condition whenTrue otherwise => [condition, whenTrue, otherwise]
  | _ => []

/-- What holds of both sides of a comparison or a sum holds of each. -/
theorem forall_mem_pair
    {motive : Expr -> Prop}
    {left right : Expr}
    (onLeft : motive left)
    (onRight : motive right) :
    ∀ child ∈ [left, right], motive child :=
  List.forall_mem_cons.mpr ⟨onLeft, List.forall_mem_singleton.mpr onRight⟩

/-- What holds of the three arguments of a call holds of each. -/
theorem forall_mem_arguments
    {motive : Expr -> Prop}
    {condition whenTrue otherwise : Expr}
    (onCondition : motive condition)
    (onWhenTrue : motive whenTrue)
    (onOtherwise : motive otherwise) :
    ∀ child ∈ [condition, whenTrue, otherwise], motive child :=
  List.forall_mem_cons.mpr ⟨onCondition, forall_mem_pair onWhenTrue onOtherwise⟩

theorem sizeOf_lt_of_mem_children
    {whole child : Expr}
    (isChild : child ∈ whole.children) :
    sizeOf child < sizeOf whole := by
  cases whole with
  | concat parts =>
      have smaller : sizeOf child < sizeOf parts :=
        List.sizeOf_lt_of_mem isChild
      rw [concat.sizeOf_spec]
      omega
  | add | compare =>
      simp only [children, List.mem_cons, List.not_mem_nil, or_false] at isChild
      obtain rfl | rfl := isChild <;> simp +arith
  | choose =>
      simp only [children, List.mem_cons, List.not_mem_nil, or_false] at isChild
      obtain rfl | rfl | rfl := isChild <;> simp +arith
  | text | number | field | now | invalid => cases isChild

/-- What passes from the children of every formula to the formula holds of all
formulas. -/
theorem induction_children
    {motive : Expr -> Prop}
    (step : ∀ formula, (∀ child ∈ formula.children, motive child) ->
      motive formula)
    (formula : Expr) :
    motive formula :=
  step formula fun child isChild =>
    have := sizeOf_lt_of_mem_children isChild
    induction_children step child
termination_by sizeOf formula

/-- A formula stands at a node of the tree of another. -/
inductive Contains : Expr -> Expr -> Prop
  | self (whole : Expr) : Contains whole whole
  | child {whole child part : Expr} :
      child ∈ whole.children -> Contains child part -> Contains whole part

theorem contains_iff
    {whole part : Expr} :
    whole.Contains part ↔
      part = whole ∨ ∃ child ∈ whole.children, child.Contains part := by
  constructor
  · intro contains
    cases contains with
    | self => exact .inl rfl
    | child isChild inside => exact .inr ⟨_, isChild, inside⟩
  · rintro (rfl | ⟨child, isChild, inside⟩)
    · exact .self part
    · exact .child isChild inside

/-- A formula without children has no part but itself. -/
theorem Contains.eq_of_children_eq_nil
    {whole part : Expr}
    (contains : whole.Contains part)
    (leaf : whole.children = []) :
    part = whole := by
  obtain same | ⟨child, isChild, _⟩ := contains_iff.mp contains
  · exact same
  · rw [leaf] at isChild
    cases isChild

/-- Two or more operands that are joined are a sum of two integers or a
concatenation. -/
theorem sum_cons_cases (first second : Expr) (others : List Expr) :
    (others = [] ∧ (first.isInteger && second.isInteger) = true ∧
        first.sum (second :: others) = .add first second) ∨
      ((∀ left right, first :: second :: others = [left, right] ->
          (left.isInteger && right.isInteger) = false) ∧
        first.sum (second :: others) =
          .concat (first :: second :: others)) := by
  cases others with
  | nil =>
      rw [sum]
      split
      · rename_i areIntegers
        exact .inl ⟨rfl, areIntegers, rfl⟩
      · rename_i notIntegers
        rw [Bool.not_eq_true] at notIntegers
        refine .inr ⟨?_, rfl⟩
        rintro left right ⟨⟩
        exact notIntegers
  | cons third others => exact .inr ⟨nofun, rfl⟩

/-- Operands that are joined stand directly under the joined formula. -/
theorem children_sum (first second : Expr) (others : List Expr) :
    (first.sum (second :: others)).children = first :: second :: others := by
  obtain ⟨rfl, _, added⟩ | ⟨_, concatenated⟩ :=
    sum_cons_cases first second others
  · rw [added]
    rfl
  · rw [concatenated]
    rfl

/-- A part of joined operands is the joined formula or a part of an
operand. -/
theorem Contains.of_sum
    {first part : Expr}
    {others : List Expr}
    (contains : (first.sum others).Contains part) :
    part = first.sum others ∨
      ∃ operand ∈ first :: others, operand.Contains part := by
  cases others with
  | nil => exact .inr ⟨first, by simp, contains⟩
  | cons second others =>
      obtain same | ⟨child, isChild, inside⟩ := contains_iff.mp contains
      · exact .inl same
      · rw [children_sum] at isChild
        exact .inr ⟨child, isChild, inside⟩

end Expr
end Formula
end CellPreview
