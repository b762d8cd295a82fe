import CellPreview.Proofs.Formula.RoundTrip

/-!
# Derivations

A derivation is the tree in which tokens make up a formula without malformed
parts, down to every argument that a call reads. Unlike the parsed formula it
keeps the parentheses, so it tells how many levels are nested. Every run of
tokens that is read as a formula without malformed parts has a derivation.

A fragment is the whole formula or an argument of a call. What a derivation
stands for under a limit on the nesting is decided for each fragment by itself:
one that nests too deep outside of its own arguments is lost as a whole.
-/

namespace CellPreview
namespace Formula

open CellPreview.Formula.Parser

/-- The tokens of a call of `if` around its first three arguments. The
arguments after the third are ignored, whatever they hold. -/
structure CallFrame where
  name : Token
  opening : Token
  firstComma : Token
  secondComma : Token
  rest : List Token
  ignored : List (List Token)
  isName : name.kind = .word ['i', 'f']
  isOpening : opening.kind = .leftParen
  isFirstComma : firstComma.kind = .comma
  isSecondComma : secondComma.kind = .comma
  isRest : Split 0 rest ([] :: ignored) []

namespace CallFrame

/-- The tokens after the opening parenthesis. -/
def inside
    (frame : CallFrame)
    (condition whenTrue otherwise : List Token) : List Token :=
  condition ++ frame.firstComma ::
    (whenTrue ++ frame.secondComma :: (otherwise ++ frame.rest))

/-- All tokens of the call. -/
def tokens
    (frame : CallFrame)
    (condition whenTrue otherwise : List Token) : List Token :=
  frame.name :: frame.opening :: frame.inside condition whenTrue otherwise

/-- Balanced arguments in a frame are the first three segments of the call. -/
theorem split
    {condition whenTrue otherwise : List Token}
    (frame : CallFrame)
    (conditionArgument : IsArgument (kinds condition))
    (whenTrueArgument : IsArgument (kinds whenTrue))
    (otherwiseArgument : IsArgument (kinds otherwise)) :
    Split 0 (frame.inside condition whenTrue otherwise)
      (condition :: whenTrue :: otherwise :: frame.ignored) [] := by
  have last := frame.isRest.prepend otherwiseArgument
  rw [List.append_nil] at last
  exact .more conditionArgument frame.isFirstComma
    (.more whenTrueArgument frame.isSecondComma last)

end CallFrame

mutual

/-- A sum, or a comparison of two sums. -/
inductive FormulaTree
  | sum (sum : SumTree)
  | compare (left : SumTree) (token : Token) (operator : Comparison)
      (isOperator : token.kind.comparison? = some operator) (right : SumTree)

/-- Operands joined by plus signs. -/
inductive SumTree
  | operands (first : OperandTree) (others : MoreTree)

/-- Further operands, each after a plus sign. -/
inductive MoreTree
  | none
  | operand (plus : Token) (isPlus : plus.kind = .plus) (next : OperandTree)
      (others : MoreTree)

/-- A literal or reference, a formula in parentheses, or a call. -/
inductive OperandTree
  | atom (token : Token) (value : Expr) (isAtom : token.kind.atom? = some value)
  | group (opening : Token) (isOpening : opening.kind = .leftParen)
      (inside : FormulaTree) (closing : Token)
      (isClosing : closing.kind = .rightParen)
  | call (frame : CallFrame) (condition whenTrue otherwise : FormulaTree)

end

/-! ## Tokens -/

mutual

/-- The tokens of a formula, in order. -/
def FormulaTree.tokens : FormulaTree -> List Token
  | .sum sum => sum.tokens
  | .compare left token _ _ right => left.tokens ++ token :: right.tokens

/-- The tokens of a sum, in order. -/
def SumTree.tokens : SumTree -> List Token
  | .operands first others => first.tokens ++ others.tokens

/-- The tokens of further operands, in order. -/
def MoreTree.tokens : MoreTree -> List Token
  | .none => []
  | .operand plus _ next others => plus :: next.tokens ++ others.tokens

/-- The tokens of an operand, in order. -/
def OperandTree.tokens : OperandTree -> List Token
  | .atom token _ _ => [token]
  | .group opening _ inside closing _ => opening :: inside.tokens ++ [closing]
  | .call frame condition whenTrue otherwise =>
      frame.tokens condition.tokens whenTrue.tokens otherwise.tokens

end

/-! ## Nesting -/

mutual

/-- How many levels are nested in a formula, outside of the arguments of its
calls. -/
def FormulaTree.nesting : FormulaTree -> Nat
  | .sum sum => sum.nesting
  | .compare left _ _ _ right => max left.nesting right.nesting

/-- How many levels are nested in a sum, outside of the arguments of its
calls. -/
def SumTree.nesting : SumTree -> Nat
  | .operands first others => max first.nesting others.nesting

/-- How many levels are nested in further operands, outside of the arguments of
their calls. -/
def MoreTree.nesting : MoreTree -> Nat
  | .none => 0
  | .operand _ _ next others => max next.nesting others.nesting

/-- How many levels are nested in an operand, outside of the arguments of its
calls. A call is one level by itself. -/
def OperandTree.nesting : OperandTree -> Nat
  | .atom _ _ _ => 0
  | .group _ _ inside _ _ => inside.nesting + 1
  | .call _ _ _ _ => 1

end

mutual

/-- How many levels are nested in a formula altogether. -/
def FormulaTree.depth : FormulaTree -> Nat
  | .sum sum => sum.depth
  | .compare left _ _ _ right => max left.depth right.depth

/-- How many levels are nested in a sum altogether. -/
def SumTree.depth : SumTree -> Nat
  | .operands first others => max first.depth others.depth

/-- How many levels are nested in further operands altogether. -/
def MoreTree.depth : MoreTree -> Nat
  | .none => 0
  | .operand _ _ next others => max next.depth others.depth

/-- How many levels are nested in an operand altogether. -/
def OperandTree.depth : OperandTree -> Nat
  | .atom _ _ _ => 0
  | .group _ _ inside _ _ => inside.depth + 1
  | .call _ condition whenTrue otherwise =>
      max condition.depth (max whenTrue.depth otherwise.depth) + 1

end

/-! ## Values -/

/-- The value of a fragment that stands in `outer` levels: a given one, unless
a level of the fragment itself is past the limit. Then the fragment is malformed
and keeps its source. -/
def FormulaTree.unlessTooDeep
    (limit : Option Nat)
    (outer : Nat)
    (tree : FormulaTree)
    (value : Expr) : Expr :=
  if limit.any (· < outer + tree.nesting) then
    .invalid (Token.source tree.tokens) (.tooDeep nestingLimit)
  else
    value

mutual

/-- The value of a formula in `outer` levels when the fragments in it that nest
too deep are lost. -/
def FormulaTree.value (limit : Option Nat) (outer : Nat) : FormulaTree -> Expr
  | .sum sum => sum.value limit outer
  | .compare left _ operator _ right =>
      .compare operator (left.value limit outer) (right.value limit outer)

/-- The value of a sum in `outer` levels. -/
def SumTree.value (limit : Option Nat) (outer : Nat) : SumTree -> Expr
  | .operands first others =>
      (first.value limit outer).sum (others.values limit outer)

/-- The values of further operands in `outer` levels. -/
def MoreTree.values (limit : Option Nat) (outer : Nat) : MoreTree -> List Expr
  | .none => []
  | .operand _ _ next others =>
      next.value limit outer :: others.values limit outer

/-- The value of an operand in `outer` levels. The arguments of a call are
fragments one level further in. -/
def OperandTree.value (limit : Option Nat) (outer : Nat) : OperandTree -> Expr
  | .atom _ value _ => value
  | .group _ _ inside _ _ => inside.value limit (outer + 1)
  | .call _ condition whenTrue otherwise =>
      .choose
        (condition.unlessTooDeep limit (outer + 1)
          (condition.value limit (outer + 1)))
        (whenTrue.unlessTooDeep limit (outer + 1)
          (whenTrue.value limit (outer + 1)))
        (otherwise.unlessTooDeep limit (outer + 1)
          (otherwise.value limit (outer + 1)))

end

/-- The value of a fragment in `outer` levels. -/
def FormulaTree.fragment
    (limit : Option Nat)
    (outer : Nat)
    (tree : FormulaTree) : Expr :=
  tree.unlessTooDeep limit outer (tree.value limit outer)

/-- A sum of intact operands is intact. -/
theorem Expr.isIntact_sum
    {first : Expr}
    {others : List Expr}
    (areIntact : ∀ operand ∈ first :: others, operand.IsIntact) :
    (first.sum others).IsIntact := by
  cases others with
  | nil => exact areIntact first List.mem_cons_self
  | cons second others =>
      apply Expr.isIntact_of_children (isInvalid_sum first second others)
      rwa [children_sum]

mutual

theorem FormulaTree.isIntact_value (outer : Nat) :
    (tree : FormulaTree) -> (tree.value none outer).IsIntact
  | .sum sum => sum.isIntact_value outer
  | .compare left _ _ _ right =>
      Expr.isIntact_of_children rfl (Expr.forall_mem_pair
        (left.isIntact_value outer) (right.isIntact_value outer))

theorem SumTree.isIntact_value (outer : Nat) :
    (tree : SumTree) -> (tree.value none outer).IsIntact
  | .operands first others =>
      Expr.isIntact_sum (List.forall_mem_cons.mpr
        ⟨first.isIntact_value outer, others.isIntact_values outer⟩)

theorem MoreTree.isIntact_values (outer : Nat) :
    (tree : MoreTree) -> ∀ value ∈ tree.values none outer, value.IsIntact
  | .none => by simp [MoreTree.values]
  | .operand _ _ next others =>
      List.forall_mem_cons.mpr
        ⟨next.isIntact_value outer, others.isIntact_values outer⟩

theorem OperandTree.isIntact_value (outer : Nat) :
    (tree : OperandTree) -> (tree.value none outer).IsIntact
  | .atom _ value isAtom => by
      rw [OperandTree.value]
      apply Expr.isIntact_of_children (IsAtom.token isAtom).isInvalid_eq_false
      rw [Token.Kind.children_of_atom? isAtom]
      exact nofun
  | .group _ _ inside _ _ => inside.isIntact_value (outer + 1)
  | .call _ condition whenTrue otherwise =>
      Expr.isIntact_of_children rfl (Expr.forall_mem_arguments
        (condition.isIntact_value (outer + 1))
        (whenTrue.isIntact_value (outer + 1))
        (otherwise.isIntact_value (outer + 1)))

end

/-! ## Balance -/

mutual

theorem FormulaTree.isArgument :
    (tree : FormulaTree) -> IsArgument (kinds tree.tokens)
  | .sum sum => sum.isArgument
  | .compare left _ _ isOperator right => by
      rw [FormulaTree.tokens, kinds_append, kinds_cons]
      exact left.isArgument.append_cons (levelAfter?_of_comparison? isOperator)
        right.isArgument

theorem SumTree.isArgument :
    (tree : SumTree) -> IsArgument (kinds tree.tokens)
  | .operands first others => by
      rw [SumTree.tokens, kinds_append]
      exact first.isArgument.append others.isArgument

theorem MoreTree.isArgument :
    (tree : MoreTree) -> IsArgument (kinds tree.tokens)
  | .none => .nil
  | .operand _ isPlus next others => by
      rw [MoreTree.tokens, List.cons_append, kinds_cons, kinds_append, isPlus]
      exact IsArgument.nil.append_cons rfl
        (next.isArgument.append others.isArgument)

theorem OperandTree.isArgument :
    (tree : OperandTree) -> IsArgument (kinds tree.tokens)
  | .atom _ _ isAtom => isArgument_of_atom? isAtom
  | .group _ isOpening inside _ isClosing => by
      rw [OperandTree.tokens, kinds_append, kinds_cons, kinds_cons, isOpening,
        isClosing]
      exact .parenthesized (inside.isArgument.levelThrough?_eq 1)
  | .call frame condition whenTrue otherwise => by
      have split := frame.split condition.isArgument whenTrue.isArgument
        otherwise.isArgument
      rw [OperandTree.tokens, CallFrame.tokens, kinds_cons, kinds_cons,
        frame.isName, frame.isOpening]
      exact split.levelThrough?_eq

end

/-! ## Derivations of what is read -/

section

variable {reading : Reading Expr}

/-- Everything without malformed parts that a relation reads has a
derivation. -/
def Derives (reading : Reading Expr) : Prop :=
  ∀ used value, reading used value -> value.IsIntact ->
    ∃ tree : OperandTree, tree.tokens = used

theorem exists_moreTree
    (derives : Derives reading)
    {used : List Token}
    {values : List Expr}
    (areMore : IsMore reading used values)
    (areIntact : ∀ value ∈ values, value.IsIntact) :
    ∃ tree : MoreTree, tree.tokens = used := by
  induction areMore with
  | none => exact ⟨.none, rfl⟩
  | operand isPlus isValue _ inductionHypothesis =>
      obtain ⟨isIntact, othersIntact⟩ := List.forall_mem_cons.mp areIntact
      obtain ⟨next, rfl⟩ := derives _ _ isValue isIntact
      obtain ⟨others, rfl⟩ := inductionHypothesis othersIntact
      exact ⟨.operand _ isPlus next others, rfl⟩

theorem exists_sumTree
    (derives : Derives reading)
    {used : List Token}
    {value : Expr}
    (isSum : IsSum reading used value)
    (isIntact : value.IsIntact) :
    ∃ tree : SumTree, tree.tokens = used := by
  cases isSum with
  | sum isFirst areOthers =>
      obtain ⟨first, rfl⟩ := derives _ _ isFirst
        (isIntact.operand List.mem_cons_self)
      obtain ⟨others, rfl⟩ := exists_moreTree derives areOthers
        fun _ present => isIntact.operand (List.mem_cons_of_mem _ present)
      exact ⟨.operands first others, rfl⟩

theorem exists_formulaTree
    (derives : Derives reading)
    {used : List Token}
    {value : Expr}
    (isComparison : IsComparison reading used value)
    (isIntact : value.IsIntact) :
    ∃ tree : FormulaTree, tree.tokens = used := by
  cases isComparison with
  | sum isSum =>
      obtain ⟨sum, rfl⟩ := exists_sumTree derives isSum isIntact
      exact ⟨.sum sum, rfl⟩
  | compare isLeft isOperator isRight =>
      obtain ⟨left, rfl⟩ := exists_sumTree derives isLeft
        (isIntact.child (.head _))
      obtain ⟨right, rfl⟩ := exists_sumTree derives isRight
        (isIntact.child (.tail _ (.head _)))
      exact ⟨.compare left _ _ isOperator right, rfl⟩

end

theorem exists_fragmentTree
    {levels : Nat}
    (derives : Derives (IsOperand levels))
    {tokens : List Token}
    (isIntact : (fragment (operand levels) tokens).IsIntact) :
    ∃ tree : FormulaTree, tree.tokens = tokens := by
  obtain isFormula | ⟨cause, isInvalid⟩ := fragment_cases levels tokens
  · exact exists_formulaTree derives isFormula isIntact
  · rw [isInvalid] at isIntact
    exact absurd (.self _) (isIntact _ cause)

theorem derives_isAtom : Derives IsAtom := by
  intro used value isAtom _
  cases isAtom with
  | token isAtom => exact ⟨.atom _ _ isAtom, rfl⟩

theorem derives_isCall
    {levels : Nat}
    (derives : Derives (IsOperand levels)) :
    Derives (IsCall (operand levels)) := by
  intro used value isCall isIntact
  cases isCall with
  | @call name opening _ _ _ _ others isName isOpening split =>
      obtain ⟨condition, rfl⟩ := exists_fragmentTree derives
        (isIntact.child (.head _))
      obtain ⟨whenTrue, rfl⟩ := exists_fragmentTree derives
        (isIntact.child (.tail _ (.head _)))
      obtain ⟨otherwise, rfl⟩ := exists_fragmentTree derives
        (isIntact.child (.tail _ (.tail _ (.head _))))
      -- what follows the third argument stays in the frame as it is
      cases split with
      | more _ isFirstComma split =>
      cases split with
      | more _ isSecondComma split =>
          obtain ⟨rest, rfl, isRest⟩ := split.exists_rest
          exact ⟨.call ⟨name, opening, _, _, rest, others, isName, isOpening,
            isFirstComma, isSecondComma, isRest⟩ condition whenTrue otherwise,
            rfl⟩

/-- What is read as an operand without malformed parts has a derivation. -/
theorem derives_isOperand (levels : Nat) : Derives (IsOperand levels) := by
  induction levels with
  | zero => exact derives_isAtom
  | succ levels inductionHypothesis =>
      intro used value isOperand isIntact
      obtain isAtom | isGroup | isCall := isOperand
      · exact derives_isAtom used value isAtom isIntact
      · cases isGroup with
        | group isOpening isFormula isClosing =>
            obtain ⟨inside, rfl⟩ :=
              exists_formulaTree inductionHypothesis isFormula isIntact
            exact ⟨.group _ isOpening inside _ isClosing, rfl⟩
      · exact derives_isCall inductionHypothesis used value isCall isIntact

end Formula
end CellPreview
