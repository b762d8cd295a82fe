import CellPreview.Proofs.Formula.Lexing
import CellPreview.Proofs.Formula.Part

/-!
# Printing

A formula is printed by spelling it with tokens, in parentheses only where the
grammar asks for them, and writing these one after the other. What is printed
is balanced, and it is scanned as the tokens that it was spelled with.
-/

namespace CellPreview
namespace Formula

/-- The token of a comparison operator. -/
def Comparison.kind : Comparison -> Token.Kind
  | .equal => .equals
  | .atMost => .atMost
  | .atLeast => .atLeast

/-- A run of tokens, in parentheses if these are wanted. -/
def parenthesized (wanted : Bool) (run : List Token.Kind) : List Token.Kind :=
  if wanted then .leftParen :: run ++ [.rightParen] else run

namespace Expr

/-- Whether a formula is a comparison, which a comparison has no place for. -/
def isComparison : Expr -> Bool
  | .compare _ _ _ => true
  | _ => false

/-- Whether a formula is a sum or a comparison, which a sum has no place
for. -/
def isJoined : Expr -> Bool
  | .concat _ => true
  | .add _ _ => true
  | formula => formula.isComparison

mutual

/-- The tokens that a formula is printed with. -/
def spelling : Expr -> List Token.Kind
  | .text content => [.text content]
  | .number numeral => [.number numeral]
  | .field => [.field]
  | .now => [.now]
  | .concat [] => []
  | .concat (first :: others) =>
      parenthesized first.isJoined first.spelling ++ moreSpelling others
  | .add left right =>
      parenthesized left.isJoined left.spelling ++
        .plus :: parenthesized right.isJoined right.spelling
  | .compare operator left right =>
      parenthesized left.isComparison left.spelling ++
        operator.kind :: parenthesized right.isComparison right.spelling
  | .choose condition whenTrue otherwise =>
      .word ['i', 'f'] :: .leftParen :: (condition.spelling ++
        .comma :: (whenTrue.spelling ++
          .comma :: (otherwise.spelling ++ [.rightParen])))
  | .invalid _ _ => []

/-- The tokens of further operands, each after a plus sign. -/
def moreSpelling : List Expr -> List Token.Kind
  | [] => []
  | operand :: others =>
      .plus :: parenthesized operand.isJoined operand.spelling ++
        moreSpelling others

end

/-- The text of a formula. -/
def print (formula : Expr) : Text :=
  written formula.spelling

/-- What a node of a formula must satisfy for the formula to have a text: a
literal lacks one of the quotes, a sum has integers as its operands, a
concatenation has two or more that are not such a sum, and nothing is
malformed. -/
def IsPrintableNode : Expr -> Prop
  | .text content => '\'' ∉ content ∨ '"' ∉ content
  | .number numeral => IsNumeral numeral
  | .concat parts => 2 ≤ parts.length ∧
      ∀ left right, parts = [left, right] ->
        (left.isInteger && right.isInteger) = false
  | .add left right => left.isInteger && right.isInteger
  | .invalid _ _ => False
  | _ => True

/-- Formulas all of whose nodes can be printed. -/
def Printable (formula : Expr) : Prop :=
  ∀ part, formula.Contains part -> part.IsPrintableNode

theorem Printable.node
    {formula : Expr}
    (printable : formula.Printable) :
    formula.IsPrintableNode :=
  printable formula (.self formula)

theorem Printable.child
    {formula child : Expr}
    (printable : formula.Printable)
    (isChild : child ∈ formula.children) :
    child.Printable :=
  fun part contains => printable part (.child isChild contains)

theorem printable_iff
    {formula : Expr} :
    formula.Printable ↔ formula.IsPrintableNode ∧
      ∀ child ∈ formula.children, child.Printable := by
  constructor
  · intro printable
    exact ⟨printable.node, fun child isChild => printable.child isChild⟩
  · rintro ⟨node, children⟩ part contains
    obtain rfl | ⟨child, isChild, inside⟩ := contains_iff.mp contains
    · exact node
    · exact children child isChild part inside

end Expr

/-! ## Sums -/

/-- A sum is spelled operand by operand, whatever its value is. -/
theorem spelling_sum (first second : Expr) (others : List Expr) :
    (first.sum (second :: others)).spelling =
      parenthesized first.isJoined first.spelling ++
        Expr.moreSpelling (second :: others) := by
  obtain ⟨rfl, _, added⟩ | ⟨_, concatenated⟩ :=
    Expr.sum_cons_cases first second others
  · rw [added]
    simp [Expr.spelling, Expr.moreSpelling]
  · rw [concatenated, Expr.spelling]

theorem isJoined_sum (first second : Expr) (others : List Expr) :
    (first.sum (second :: others)).isJoined = true := by
  obtain ⟨rfl, _, added⟩ | ⟨_, concatenated⟩ :=
    Expr.sum_cons_cases first second others
  · rw [added]
    rfl
  · rw [concatenated]
    rfl

theorem isComparison_sum (first second : Expr) (others : List Expr) :
    (first.sum (second :: others)).isComparison = false := by
  obtain ⟨rfl, _, added⟩ | ⟨_, concatenated⟩ :=
    Expr.sum_cons_cases first second others
  · rw [added]
    rfl
  · rw [concatenated]
    rfl

/-! ## Balance -/

theorem IsArgument.parenthesized_of
    {run : List Token.Kind}
    (argument : IsArgument run)
    (wanted : Bool) :
    IsArgument (Formula.parenthesized wanted run) := by
  cases wanted with
  | false => exact argument
  | true => exact .parenthesized (argument.levelThrough?_eq 1)

theorem Comparison.levelAfter?_kind (operator : Comparison) (level : Nat) :
    operator.kind.levelAfter? level = some level := by
  cases operator <;> rfl

theorem isArgument_moreSpelling
    {operands : List Expr}
    (arguments : ∀ operand ∈ operands, IsArgument operand.spelling) :
    IsArgument (Expr.moreSpelling operands) := by
  induction operands with
  | nil => exact .nil
  | cons operand others inductionHypothesis =>
      rw [Expr.moreSpelling]
      have first := (arguments operand (by simp)).parenthesized_of
        operand.isJoined
      have rest := inductionHypothesis fun other present =>
        arguments other (List.mem_cons_of_mem _ present)
      exact IsArgument.nil.append_cons rfl (first.append rest)

/-- Every formula is spelled with balanced parentheses. -/
theorem isArgument_spelling (formula : Expr) :
    IsArgument formula.spelling := by
  induction formula using Expr.induction_children with
  | step formula inductionHypothesis =>
      cases formula with
      | text | number | field | now => exact .single rfl
      | invalid => exact .nil
      | concat parts =>
          cases parts with
          | nil => exact .nil
          | cons first others =>
              rw [Expr.spelling]
              have rest : IsArgument (Expr.moreSpelling others) :=
                isArgument_moreSpelling fun operand present =>
                  inductionHypothesis operand
                    (List.mem_cons_of_mem _ present)
              exact ((inductionHypothesis first
                List.mem_cons_self).parenthesized_of _).append rest
      | add left right =>
          rw [Expr.spelling]
          exact ((inductionHypothesis left
            (by simp [Expr.children])).parenthesized_of _).append_cons rfl
              ((inductionHypothesis right
                (by simp [Expr.children])).parenthesized_of _)
      | compare operator left right =>
          rw [Expr.spelling]
          exact ((inductionHypothesis left
            (by simp [Expr.children])).parenthesized_of _).append_cons
              (operator.levelAfter?_kind 0)
              ((inductionHypothesis right
                (by simp [Expr.children])).parenthesized_of _)
      | choose condition whenTrue otherwise =>
          have argument (child : Expr)
              (isChild : child ∈ [condition, whenTrue, otherwise]) :
              levelThrough? 1 child.spelling = some 1 :=
            (inductionHypothesis child isChild).levelThrough?_eq 1
          simp [Expr.spelling, IsArgument, levelThrough?_cons,
            levelThrough?_append, Token.Kind.levelAfter?,
            argument condition (by simp), argument whenTrue (by simp),
            argument otherwise (by simp)]

theorem isArgument_parenthesized (wanted : Bool) (formula : Expr) :
    IsArgument (parenthesized wanted formula.spelling) :=
  (isArgument_spelling formula).parenthesized_of wanted

/-! ## Depth -/

theorem depth_parenthesized_le
    {wanted : Bool}
    {formula : Expr} :
    depth formula.spelling ≤ depth (parenthesized wanted formula.spelling) := by
  cases wanted with
  | false => exact Nat.le_refl _
  | true =>
      rw [parenthesized, if_pos rfl,
        (isArgument_spelling formula).depth_parenthesized]
      omega

/-- Parentheses add one level at most. -/
theorem depth_parenthesized_le_succ
    {wanted : Bool}
    {formula : Expr} :
    depth (parenthesized wanted formula.spelling) ≤
      depth formula.spelling + 1 := by
  cases wanted with
  | false => exact Nat.le_succ _
  | true => exact Nat.le_of_eq (isArgument_spelling formula).depth_parenthesized

theorem spelling_choose (condition whenTrue otherwise : Expr) :
    (Expr.choose condition whenTrue otherwise).spelling =
      .word ['i', 'f'] :: .leftParen ::
        ([Token.Kind.comma].intercalate
          [condition.spelling, whenTrue.spelling, otherwise.spelling] ++
            [.rightParen]) := by
  simp [Expr.spelling, List.intercalate]

/-- A call is one level deeper than the deepest of its arguments. -/
theorem depth_choose (condition whenTrue otherwise : Expr) :
    depth (Expr.choose condition whenTrue otherwise).spelling =
      max (depth condition.spelling)
        (max (depth whenTrue.spelling) (depth otherwise.spelling)) + 1 := by
  rw [Expr.spelling, depth_cons (by simp) (by simp), depth_leftParen,
    (isArgument_spelling condition).depth_append, depth_cons (by simp) (by simp),
    (isArgument_spelling whenTrue).depth_append, depth_cons (by simp) (by simp),
    (isArgument_spelling otherwise).depth_append]
  simp

/-! ## Scanning -/

/-- Runs that may be written behind every token. -/
def Follows (run : List Token.Kind) : Prop :=
  Writable run ∧ StartsSeparated run

theorem follows_cons
    {kind : Token.Kind}
    {run : List Token.Kind}
    (isSeparator : kind.isSeparator)
    (writable : Writable run) :
    Follows (kind :: run) := by
  constructor
  · cases kind with
    | leftParen | rightParen | comma | plus | equals | atMost | atLeast =>
        exact .cons trivial (by simp [Token.Kind.isOpen]) writable
    | text | number | field | now | reference | word | stray =>
        cases isSeparator
  · intro other present
    cases present
    exact isSeparator

theorem writable_parenthesized
    {run : List Token.Kind}
    (writable : ∀ rest, Follows rest -> Writable (run ++ rest))
    (wanted : Bool)
    {rest : List Token.Kind}
    (follows : Follows rest) :
    Writable (parenthesized wanted run ++ rest) := by
  cases wanted with
  | false => exact writable rest follows
  | true =>
      have inside := writable (.rightParen :: rest)
        (follows_cons rfl follows.1)
      have whole := (@follows_cons .leftParen _ rfl inside).1
      simpa [parenthesized] using whole

theorem follows_moreSpelling
    {operands : List Expr}
    (writable : ∀ operand ∈ operands, forall rest, Follows rest ->
      Writable (operand.spelling ++ rest))
    {rest : List Token.Kind}
    (follows : Follows rest) :
    Follows (Expr.moreSpelling operands ++ rest) := by
  induction operands with
  | nil => exact follows
  | cons operand others inductionHypothesis =>
      have others := inductionHypothesis fun other present =>
        writable other (List.mem_cons_of_mem _ present)
      have first := writable_parenthesized
        (writable operand List.mem_cons_self) operand.isJoined others
      rw [Expr.moreSpelling]
      simp only [List.cons_append, List.append_assoc]
      exact follows_cons rfl first

theorem Comparison.isSeparator_kind (operator : Comparison) :
    operator.kind.isSeparator := by
  cases operator <;> rfl

/-- What a printable formula is spelled with can be written. -/
theorem writable_spelling
    {formula : Expr}
    (printable : formula.Printable)
    {rest : List Token.Kind}
    (follows : Follows rest) :
    Writable (formula.spelling ++ rest) := by
  induction formula using Expr.induction_children generalizing rest with
  | step formula inductionHypothesis =>
      have writable (child : Expr) (isChild : child ∈ formula.children)
          (rest : List Token.Kind) (follows : Follows rest) :
          Writable (child.spelling ++ rest) :=
        inductionHypothesis child isChild (printable.child isChild) follows
      cases formula with
      | text | number =>
          exact .cons printable.node (fun _ => follows.2) follows.1
      | field | now => exact .cons trivial (fun _ => follows.2) follows.1
      | invalid => exact printable.node.elim
      | concat parts =>
          cases parts with
          | nil => exact follows.1
          | cons first others =>
              rw [Expr.spelling, List.append_assoc]
              apply writable_parenthesized (writable first List.mem_cons_self)
              exact follows_moreSpelling (fun operand present =>
                writable operand (List.mem_cons_of_mem _ present)) follows
      | add left right =>
          rw [Expr.spelling, List.append_assoc, List.cons_append]
          apply writable_parenthesized (writable left (by simp [Expr.children]))
          apply follows_cons rfl
          exact writable_parenthesized
            (writable right (by simp [Expr.children])) _ follows
      | compare operator left right =>
          rw [Expr.spelling, List.append_assoc, List.cons_append]
          apply writable_parenthesized (writable left (by simp [Expr.children]))
          apply follows_cons operator.isSeparator_kind
          exact writable_parenthesized
            (writable right (by simp [Expr.children])) _ follows
      | choose condition whenTrue otherwise =>
          have closing := @follows_cons .rightParen _ rfl follows.1
          have third := writable otherwise (by simp [Expr.children]) _
            closing
          have second := writable whenTrue (by simp [Expr.children]) _
            (@follows_cons .comma _ rfl third)
          have first := writable condition (by simp [Expr.children]) _
            (@follows_cons .comma _ rfl second)
          have opening := @follows_cons .leftParen _ rfl first
          have call : Writable (.word ['i', 'f'] :: _) :=
            .cons rfl (fun _ => opening.2) opening.1
          simpa [Expr.spelling] using call

/-- A printable formula is scanned as the tokens it is spelled with. -/
theorem lexes_print
    {formula : Expr}
    (printable : formula.Printable) :
    Lexes formula.print formula.spelling := by
  have follows : Follows [] := ⟨.nil, by simp [StartsSeparated]⟩
  have writable := writable_spelling printable follows
  rw [List.append_nil] at writable
  exact writable.lexes

example :
    (Expr.choose (.compare .equal .field (.text ['\'']))
      (.concat [.text ['a'], .add .now (.number ['1'])]) .field).print =
      "if(@currentField == \"'\", 'a' + (@now + 1), @currentField)" := by
  decide

end Formula
end CellPreview
