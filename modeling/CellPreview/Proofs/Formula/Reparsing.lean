import CellPreview.Proofs.Formula.Printing
import CellPreview.Proofs.Formula.Reading

/-!
# Parsing what was printed

A printable formula that is not nested too deep is what its text is parsed to.
The tokens that the formula is spelled with are read as the formula, by
induction on the formula, with any number of levels that the spelling keeps
within.
-/

namespace CellPreview
namespace Formula

open CellPreview.Formula.Parser

/-- The largest number of parentheses open at once in a text. -/
def nesting (body : Text) : Nat :=
  match tokenize body with
  | .ok tokens => depth (kinds tokens)
  | .error _ => 0

/-- Tokens are read as a formula, and as an operand or a sum when it needs no
parentheses there. -/
structure IsReadAs (levels : Nat) (tokens : List Token) (formula : Expr) :
    Prop where
  whole : IsFormula levels tokens formula
  sum : formula.isComparison = false -> IsSum (IsOperand levels) tokens formula
  operand : formula.isJoined = false -> IsOperand levels tokens formula

theorem IsReadAs.of_operand
    {levels : Nat}
    {tokens : List Token}
    {formula : Expr}
    (isOperand : IsOperand levels tokens formula) :
    IsReadAs levels tokens formula :=
  ⟨.sum (.of_operand isOperand), fun _ => .of_operand isOperand,
    fun _ => isOperand⟩

theorem IsReadAs.of_sum
    {levels : Nat}
    {tokens : List Token}
    {formula : Expr}
    (isSum : IsSum (IsOperand levels) tokens formula)
    (isJoined : formula.isJoined) :
    IsReadAs levels tokens formula := by
  refine ⟨.sum isSum, fun _ => isSum, fun notJoined => ?_⟩
  rw [isJoined] at notJoined
  cases notJoined

/-- The tokens that a formula is printed with are read as the formula, at every
number of levels that they keep within. -/
def Respells (formula : Expr) : Prop :=
  ∀ levels tokens, kinds tokens = formula.spelling ->
    depth formula.spelling ≤ levels -> IsReadAs levels tokens formula

theorem Comparison.comparison?_kind (operator : Comparison) :
    operator.kind.comparison? = some operator := by
  cases operator <;> rfl

theorem Comparison.depth_kind_cons
    (operator : Comparison)
    (run : List Token.Kind) :
    depth (operator.kind :: run) = depth run := by
  cases operator <;> rfl

namespace Respells

/-- Parentheses make an operand of every formula. -/
theorem isOperand_parenthesized
    {formula : Expr}
    (respells : Respells formula)
    {levels : Nat}
    {tokens : List Token}
    (same : kinds tokens = .leftParen :: formula.spelling ++ [.rightParen])
    (within : depth (.leftParen :: formula.spelling ++ [.rightParen]) ≤ levels) :
    IsOperand levels tokens formula := by
  -- the parentheses take one level, and the formula keeps within the others
  rw [(isArgument_spelling formula).depth_parenthesized] at within
  obtain ⟨inner, rfl⟩ : ∃ inner, levels = inner + 1 :=
    Nat.exists_eq_succ_of_ne_zero (by omega)
  obtain ⟨before, after, rfl, beforeSame, afterSame⟩ :=
    kinds_eq_append_iff.mp same
  obtain ⟨opening, inside, rfl, isOpening, insideSame⟩ :=
    kinds_eq_cons_iff.mp beforeSame
  obtain ⟨closing, rfl, isClosing⟩ := kinds_eq_singleton_iff.mp afterSame
  have isFormula := (respells inner inside insideSame (by omega)).whole
  exact .group (.group isOpening isFormula isClosing)

theorem isOperand
    {formula : Expr}
    (respells : Respells formula)
    {levels : Nat}
    {tokens : List Token}
    (same : kinds tokens =
      parenthesized formula.isJoined formula.spelling)
    (within : depth (parenthesized formula.isJoined formula.spelling) ≤
      levels) :
    IsOperand levels tokens formula := by
  cases isJoined : formula.isJoined with
  | false =>
      rw [isJoined] at same within
      exact (respells levels tokens same within).operand isJoined
  | true =>
      rw [isJoined] at same within
      exact respells.isOperand_parenthesized same within

theorem isSum
    {formula : Expr}
    (respells : Respells formula)
    {levels : Nat}
    {tokens : List Token}
    (same : kinds tokens =
      parenthesized formula.isComparison formula.spelling)
    (within : depth (parenthesized formula.isComparison formula.spelling) ≤
      levels) :
    IsSum (IsOperand levels) tokens formula := by
  cases isComparison : formula.isComparison with
  | false =>
      rw [isComparison] at same within
      exact (respells levels tokens same within).sum isComparison
  | true =>
      rw [isComparison] at same within
      exact .of_operand (respells.isOperand_parenthesized same within)

theorem isMore
    {operands : List Expr}
    (respells : ∀ operand ∈ operands, Respells operand)
    {levels : Nat}
    {tokens : List Token}
    (same : kinds tokens = Expr.moreSpelling operands)
    (within : depth (Expr.moreSpelling operands) ≤ levels) :
    IsMore (IsOperand levels) tokens operands := by
  induction operands generalizing tokens with
  | nil =>
      rw [Expr.moreSpelling, kinds, List.map_eq_nil_iff] at same
      rw [same]
      exact .none
  | cons operand others inductionHypothesis =>
      rw [Expr.moreSpelling] at same within
      obtain ⟨before, after, rfl, beforeSame, afterSame⟩ :=
        kinds_eq_append_iff.mp same
      obtain ⟨plus, used, rfl, isPlus, usedSame⟩ :=
        kinds_eq_cons_iff.mp beforeSame
      rw [List.cons_append, depth_cons (by simp) (by simp),
        (isArgument_parenthesized _ operand).depth_append]
        at within
      obtain ⟨firstWithin, othersWithin⟩ := Nat.max_le.mp within
      have isFirst := (respells operand List.mem_cons_self).isOperand usedSame
        firstWithin
      have areOthers := inductionHypothesis
        (fun other present => respells other (List.mem_cons_of_mem _ present))
        afterSame othersWithin
      exact .operand isPlus isFirst areOthers

theorem atom
    {formula : Expr}
    {kind : Token.Kind}
    (spelling : formula.spelling = [kind])
    (isAtom : kind.atom? = some formula) :
    Respells formula := by
  intro levels tokens same _
  rw [spelling] at same
  obtain ⟨token, rfl, rfl⟩ := kinds_eq_singleton_iff.mp same
  exact .of_operand (isOperand_of_atom? isAtom levels)

/-- The operands of a sum stand one after the other in its tokens. -/
theorem sum
    {first second : Expr}
    {others : List Expr}
    (respells : ∀ operand ∈ first :: second :: others, Respells operand) :
    Respells (first.sum (second :: others)) := by
  intro levels tokens same within
  rw [spelling_sum] at same within
  rw [(isArgument_parenthesized _ first).depth_append] at within
  obtain ⟨firstWithin, moreWithin⟩ := Nat.max_le.mp within
  obtain ⟨used, more, rfl, usedSame, moreSame⟩ :=
    kinds_eq_append_iff.mp same
  have isFirst := (respells first List.mem_cons_self).isOperand usedSame
    firstWithin
  have areMore := Respells.isMore (fun operand present =>
    respells operand (List.mem_cons_of_mem _ present)) moreSame moreWithin
  exact .of_sum (.sum isFirst areMore) (isJoined_sum first second others)

/-- The sides of a comparison stand around its operator. -/
theorem compare
    {left right : Expr}
    (leftRespells : Respells left)
    (rightRespells : Respells right)
    (operator : Comparison) :
    Respells (.compare operator left right) := by
  intro levels tokens same within
  rw [Expr.spelling] at same within
  rw [(isArgument_parenthesized _ left).depth_append,
    operator.depth_kind_cons] at within
  obtain ⟨leftWithin, rightWithin⟩ := Nat.max_le.mp within
  obtain ⟨used, more, rfl, usedSame, moreSame⟩ :=
    kinds_eq_append_iff.mp same
  obtain ⟨token, others, rfl, isOperator, othersSame⟩ :=
    kinds_eq_cons_iff.mp moreSame
  have isLeft := leftRespells.isSum usedSame leftWithin
  have isRight := rightRespells.isSum othersSame rightWithin
  have isComparison := IsComparison.compare isLeft
    (isOperator ▸ operator.comparison?_kind) isRight
  refine ⟨isComparison, ?_, ?_⟩
  · intro isOperand
    cases isOperand
  · intro isSum
    cases isSum

/-- The arguments of a call are its segments, each read as a fragment. -/
theorem choose
    {condition whenTrue otherwise : Expr}
    (conditionRespells : Respells condition)
    (whenTrueRespells : Respells whenTrue)
    (otherwiseRespells : Respells otherwise) :
    Respells (.choose condition whenTrue otherwise) := by
  intro levels tokens same within
  rw [depth_choose] at within
  obtain ⟨inner, rfl⟩ : ∃ inner, levels = inner + 1 :=
    Nat.exists_eq_succ_of_ne_zero (by omega)
  rw [spelling_choose] at same
  obtain ⟨name, _, rfl, isName, same⟩ := kinds_eq_cons_iff.mp same
  obtain ⟨opening, inside, rfl, isOpening, same⟩ := kinds_eq_cons_iff.mp same
  obtain ⟨segments, segmentsSame, split⟩ := exists_split_of_kinds_eq
    (by simp) (by simp [isArgument_spelling]) same
  obtain ⟨first, _, rfl, firstSame, segmentsSame⟩ :=
    List.map_eq_cons_iff.mp segmentsSame
  obtain ⟨second, _, rfl, secondSame, segmentsSame⟩ :=
    List.map_eq_cons_iff.mp segmentsSame
  obtain ⟨third, rfl, thirdSame⟩ := List.map_eq_singleton_iff.mp segmentsSame
  have isFirst := conditionRespells inner first firstSame (by omega)
  have isSecond := whenTrueRespells inner second secondSame (by omega)
  have isThird := otherwiseRespells inner third thirdSame (by omega)
  have isCall := @IsCall.call (operand inner) _ _ _ _ _ _ _ isName isOpening
    split
  rw [isFirst.whole.fragment_eq, isSecond.whole.fragment_eq,
    isThird.whole.fragment_eq] at isCall
  exact .of_operand (.call isCall)

end Respells

/-- Operands that make up a printable concatenation are joined to it. -/
theorem sum_eq_concat
    {first second : Expr}
    {others : List Expr}
    (node : (Expr.concat (first :: second :: others)).IsPrintableNode) :
    first.sum (second :: others) = .concat (first :: second :: others) := by
  cases others with
  | nil =>
      have notBoth := node.2 first second rfl
      rw [Expr.sum, notBoth]
      rfl
  | cons third others => rfl

/-- A printable formula is what its tokens are read as. -/
theorem respells_of_printable
    {formula : Expr}
    (printable : formula.Printable) :
    Respells formula := by
  induction formula using Expr.induction_children with
  | step formula inductionHypothesis =>
      have respells (child : Expr) (isChild : child ∈ formula.children) :
          Respells child :=
        inductionHypothesis child isChild (printable.child isChild)
      cases formula with
      | text | number | field | now => exact .atom rfl rfl
      | invalid => exact printable.node.elim
      | concat parts =>
          match parts, printable.node.1 with
          | first :: second :: others, _ =>
              rw [← sum_eq_concat printable.node]
              exact .sum respells
      | add left right =>
          have node : left.isInteger && right.isInteger := printable.node
          have isSum : left.sum [right] = .add left right := if_pos node
          rw [← isSum]
          exact .sum respells
      | compare operator left right =>
          exact .compare (respells left (by simp [Expr.children]))
            (respells right (by simp [Expr.children])) operator
      | choose condition whenTrue otherwise =>
          exact .choose (respells condition (by simp [Expr.children]))
            (respells whenTrue (by simp [Expr.children]))
            (respells otherwise (by simp [Expr.children]))

/-- The text of a printable formula is nested as deep as its spelling. -/
theorem nesting_print
    {formula : Expr}
    (printable : formula.Printable) :
    nesting formula.print = depth formula.spelling := by
  obtain ⟨tokens, same, scans⟩ := lexes_print printable 0
  have tokenized : tokenize formula.print = .ok tokens :=
    Lexer.scan_eq_ok_iff.mpr scans
  rw [← same, nesting, tokenized]

/-- A printable formula within the limit is what its text is parsed to. -/
theorem parse_print
    {formula : Expr}
    (printable : formula.Printable)
    (within : nesting formula.print ≤ nestingLimit) :
    parse formula.print = formula := by
  rw [nesting_print printable] at within
  obtain ⟨tokens, same, scans⟩ := lexes_print printable 0
  have tokenized : tokenize formula.print = .ok tokens :=
    Lexer.scan_eq_ok_iff.mpr scans
  have isReadAs := respells_of_printable printable nestingLimit tokens same
    within
  rw [parse_eq_fragment tokenized]
  exact isReadAs.whole.fragment_eq

end Formula
end CellPreview
