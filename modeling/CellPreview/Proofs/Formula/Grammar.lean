import CellPreview.Proofs.Formula.Reading
import CellPreview.Proofs.Formula.Scanning

/-!
# The grammar of formulas

The language of the parser as a grammar over kinds of tokens. The arguments of
a call are arbitrary balanced runs without a comma of their own, so a call is
well formed whatever its arguments hold. Every category is indexed by the
number of levels that groups and calls may nest in it.

The main statement is that a text in tokens is parsed to a well-formed formula
exactly when its kinds of tokens derive from the grammar.
-/

namespace CellPreview
namespace Formula
namespace Grammar

/-- Kinds of tokens that compare two sums. -/
def IsOperator (kind : Token.Kind) : Prop :=
  kind = .equals ∨ kind = .atMost ∨ kind = .atLeast

mutual

/-- A sum, or a comparison of two sums. -/
inductive FormulaRun : Nat -> List Token.Kind -> Prop
  | sum {levels : Nat} {run : List Token.Kind} :
      SumRun levels run -> FormulaRun levels run
  | compare {levels : Nat} {kind : Token.Kind} {left right : List Token.Kind} :
      SumRun levels left -> IsOperator kind -> SumRun levels right ->
      FormulaRun levels (left ++ kind :: right)

/-- Operands joined by plus signs. -/
inductive SumRun : Nat -> List Token.Kind -> Prop
  | operand {levels : Nat} {run : List Token.Kind} :
      OperandRun levels run -> SumRun levels run
  | plus {levels : Nat} {first others : List Token.Kind} :
      OperandRun levels first -> SumRun levels others ->
      SumRun levels (first ++ .plus :: others)

/-- A literal, a reference, a formula in parentheses or a call. -/
inductive OperandRun : Nat -> List Token.Kind -> Prop
  | text (levels : Nat) (content : Text) : OperandRun levels [.text content]
  | number (levels : Nat) (numeral : Text) : OperandRun levels [.number numeral]
  | field (levels : Nat) : OperandRun levels [.field]
  | now (levels : Nat) : OperandRun levels [.now]
  | group {levels : Nat} {inside : List Token.Kind} :
      FormulaRun levels inside ->
      OperandRun (levels + 1) (.leftParen :: inside ++ [.rightParen])
  | call {levels : Nat} {arguments : List (List Token.Kind)} :
      3 ≤ arguments.length ->
      (∀ argument ∈ arguments, IsArgument argument) ->
      OperandRun (levels + 1)
        (.word ['i', 'f'] :: .leftParen ::
          [Token.Kind.comma].intercalate arguments ++ [.rightParen])

end

/-! ## What is read derives from the grammar -/

theorem isOperator_of_comparison?
    {kind : Token.Kind}
    {operator : Comparison}
    (isOperator : kind.comparison? = some operator) :
    IsOperator kind := by
  unfold Token.Kind.comparison? at isOperator
  split at isOperator <;> simp_all [IsOperator]

theorem IsOperator.exists_comparison?
    {kind : Token.Kind}
    (isOperator : IsOperator kind) :
    ∃ operator, kind.comparison? = some operator := by
  obtain rfl | rfl | rfl := isOperator
  · exact ⟨.equal, rfl⟩
  · exact ⟨.atMost, rfl⟩
  · exact ⟨.atLeast, rfl⟩

open CellPreview.Formula.Parser

theorem sum_of_isMore
    {levels : Nat}
    {first : List Token.Kind}
    {used : List Token}
    {values : List Expr}
    (derives : forall {used value}, IsOperand levels used value ->
      OperandRun levels (kinds used))
    (isFirst : OperandRun levels first)
    (areMore : IsMore (IsOperand levels) used values) :
    SumRun levels (first ++ kinds used) := by
  induction areMore generalizing first with
  | none => simpa using SumRun.operand isFirst
  | operand isPlus isValue _ inductionHypothesis =>
      have others := inductionHypothesis (derives isValue)
      simpa [isPlus] using SumRun.plus isFirst others

theorem sum_of_isSum
    {levels : Nat}
    {used : List Token}
    {value : Expr}
    (derives : forall {used value}, IsOperand levels used value ->
      OperandRun levels (kinds used))
    (isSum : IsSum (IsOperand levels) used value) :
    SumRun levels (kinds used) := by
  cases isSum with
  | sum isFirst areOthers =>
      rw [kinds_append]
      exact sum_of_isMore derives (derives isFirst) areOthers

theorem formula_of_isComparison
    {levels : Nat}
    {used : List Token}
    {value : Expr}
    (derives : forall {used value}, IsOperand levels used value ->
      OperandRun levels (kinds used))
    (isFormula : IsFormula levels used value) :
    FormulaRun levels (kinds used) := by
  cases isFormula with
  | sum isSum => exact .sum (sum_of_isSum derives isSum)
  | compare isLeft isOperator isRight =>
      rw [kinds_append, kinds_cons]
      exact .compare (sum_of_isSum derives isLeft)
        (isOperator_of_comparison? isOperator) (sum_of_isSum derives isRight)

theorem operand_of_isAtom
    {levels : Nat}
    {used : List Token}
    {value : Expr}
    (isAtom : IsAtom used value) :
    OperandRun levels (kinds used) := by
  cases isAtom with
  | @token token _ isAtom =>
      rw [kinds_cons, kinds_nil]
      unfold Token.Kind.atom? at isAtom
      split at isAtom <;> simp_all [OperandRun.text, OperandRun.number,
        OperandRun.field, OperandRun.now]

theorem operand_of_isOperand
    {levels : Nat}
    {used : List Token}
    {value : Expr}
    (isOperand : IsOperand levels used value) :
    OperandRun levels (kinds used) := by
  induction levels generalizing used value with
  | zero => exact operand_of_isAtom isOperand
  | succ levels inductionHypothesis =>
      obtain isAtom | isGroup | isCall := isOperand
      · exact operand_of_isAtom isAtom
      · cases isGroup with
        | group isOpening isFormula isClosing =>
            have inside := formula_of_isComparison inductionHypothesis isFormula
            simpa [isOpening, isClosing] using OperandRun.group inside
      · cases isCall with
        | @call _ _ inside condition whenTrue otherwise others isName isOpening
            split =>
            have balanced : ∀ argument ∈ (condition :: whenTrue :: otherwise ::
                others).map kinds, IsArgument argument := by
              simpa using split.isArgument
            have call := @OperandRun.call levels _ (by simp) balanced
            simpa [isName, isOpening, kinds_eq_of_split split] using call

/-! ## What derives from the grammar is read -/

mutual

theorem FormulaRun.exists_isFormula
    {levels : Nat}
    {run : List Token.Kind}
    {tokens : List Token}
    (same : kinds tokens = run) :
    FormulaRun levels run -> ∃ value, IsFormula levels tokens value
  | .sum isSum => by
      obtain ⟨value, isSum⟩ := isSum.exists_isSum same
      exact ⟨value, .sum isSum⟩
  | .compare isLeft isOperator isRight => by
      obtain ⟨before, _, rfl, leftSame, middle⟩ := kinds_eq_append_iff.mp same
      obtain ⟨token, after, rfl, rfl, rightSame⟩ := kinds_eq_cons_iff.mp middle
      obtain ⟨left, isLeft⟩ := isLeft.exists_isSum leftSame
      obtain ⟨right, isRight⟩ := isRight.exists_isSum rightSame
      obtain ⟨operator, isOperator⟩ := isOperator.exists_comparison?
      exact ⟨_, .compare isLeft isOperator isRight⟩

theorem SumRun.exists_isSum
    {levels : Nat}
    {run : List Token.Kind}
    {tokens : List Token}
    (same : kinds tokens = run) :
    SumRun levels run -> ∃ value, IsSum (IsOperand levels) tokens value
  | .operand isOperand => by
      obtain ⟨value, isOperand⟩ := isOperand.exists_isOperand same
      exact ⟨value, .of_operand isOperand⟩
  | .plus isFirst areOthers => by
      obtain ⟨used, _, rfl, firstSame, middle⟩ := kinds_eq_append_iff.mp same
      obtain ⟨plus, others, rfl, isPlus, othersSame⟩ :=
        kinds_eq_cons_iff.mp middle
      obtain ⟨first, isFirst⟩ := isFirst.exists_isOperand firstSame
      obtain ⟨_, areOthers⟩ := areOthers.exists_isSum othersSame
      cases areOthers with
      | sum isSecond areMore =>
          exact ⟨_, .sum isFirst (.operand isPlus isSecond areMore)⟩

theorem OperandRun.exists_isOperand
    {levels : Nat}
    {run : List Token.Kind}
    {tokens : List Token}
    (same : kinds tokens = run) :
    OperandRun levels run -> ∃ value, IsOperand levels tokens value
  | .text levels content => by
      obtain ⟨token, rfl, isText⟩ := kinds_eq_singleton_iff.mp same
      exact ⟨.text content, isOperand_of_atom? (by rw [isText]; rfl) levels⟩
  | .number levels numeral => by
      obtain ⟨token, rfl, isNumber⟩ := kinds_eq_singleton_iff.mp same
      exact ⟨.number numeral, isOperand_of_atom? (by rw [isNumber]; rfl) levels⟩
  | .field levels => by
      obtain ⟨token, rfl, isField⟩ := kinds_eq_singleton_iff.mp same
      exact ⟨.field, isOperand_of_atom? (by rw [isField]; rfl) levels⟩
  | .now levels => by
      obtain ⟨token, rfl, isNow⟩ := kinds_eq_singleton_iff.mp same
      exact ⟨.now, isOperand_of_atom? (by rw [isNow]; rfl) levels⟩
  | .group isFormula => by
      obtain ⟨opening, _, rfl, isOpening, middle⟩ := kinds_eq_cons_iff.mp same
      obtain ⟨inside, _, rfl, insideSame, last⟩ := kinds_eq_append_iff.mp middle
      obtain ⟨closing, rfl, isClosing⟩ := kinds_eq_singleton_iff.mp last
      obtain ⟨value, isFormula⟩ := isFormula.exists_isFormula insideSame
      exact ⟨value, .group (.group isOpening isFormula isClosing)⟩
  | .call enough balanced => by
      obtain ⟨name, _, rfl, isName, middle⟩ := kinds_eq_cons_iff.mp same
      obtain ⟨opening, inside, rfl, isOpening, insideSame⟩ :=
        kinds_eq_cons_iff.mp middle
      obtain ⟨segments, rfl, split⟩ := exists_split_of_kinds_eq
        (List.ne_nil_of_length_pos (by omega)) balanced insideSame
      match segments, enough with
      | condition :: whenTrue :: otherwise :: others, _ =>
          exact ⟨_, .call (.call isName isOpening split)⟩

end

/-- Runs of tokens are read as formulas exactly when their kinds derive from
the grammar. -/
theorem exists_isFormula_iff
    {levels : Nat}
    {tokens : List Token} :
    (∃ value, IsFormula levels tokens value) ↔
      FormulaRun levels (kinds tokens) := by
  constructor
  · rintro ⟨value, isFormula⟩
    exact formula_of_isComparison operand_of_isOperand isFormula
  · exact FormulaRun.exists_isFormula rfl

end Grammar

/-- The parser accepts exactly its grammar. A text in tokens is parsed to a
well-formed formula exactly when the kinds of its tokens derive from the
grammar within the nesting limit. A text without tokens is malformed because of
a text literal that is never closed. -/
theorem parse_isInvalid_iff_grammar (body : Text) :
    (∀ tokens, tokenize body = .ok tokens ->
      ((parse body).isInvalid = false ↔
        Grammar.FormulaRun nestingLimit (kinds tokens))) ∧
    (∀ cause, tokenize body = .error cause ->
      ∃ source offset,
        parse body = .invalid source (.unterminatedText offset)) := by
  refine ⟨fun tokens tokenized => ?_, fun cause failed => ?_⟩
  · rw [parse_eq_fragment tokenized]
    exact Parser.isInvalid_fragment_eq_false_iff.trans
      Grammar.exists_isFormula_iff
  · obtain ⟨start, rfl⟩ := (Lexer.stops_of_scan failed).exists_start
    exact ⟨body.trim, start, parse_eq_invalid failed⟩

/-- A call with two empty arguments and a malformed one is accepted; a text
literal that is never closed is not. -/
theorem parse_isInvalid_iff_grammar_call :
    let tokens : List Token :=
      [⟨.word ['i', 'f'], 0, [], ['i', 'f']⟩, ⟨.leftParen, 2, [], ['(']⟩,
        ⟨.comma, 3, [], [',']⟩, ⟨.number ['1'], 4, [], ['1']⟩,
        ⟨.plus, 5, [], ['+']⟩, ⟨.comma, 7, [' '], [',']⟩,
        ⟨.rightParen, 8, [], [')']⟩]
    tokenize "if(,1+ ,)" = .ok tokens ∧
      Grammar.FormulaRun nestingLimit (kinds tokens) ∧
      tokenize "('x" = .error (.unterminatedText 1) ∧
      ∃ source offset,
        parse "('x" = .invalid source (.unterminatedText offset) :=
  ⟨by with_unfolding_all rfl,
    ((parse_isInvalid_iff_grammar "if(,1+ ,)").1 _
      (by with_unfolding_all rfl)).mp (by decide +kernel),
    by with_unfolding_all rfl,
    (parse_isInvalid_iff_grammar _).2 _ (by with_unfolding_all rfl)⟩

end Formula
end CellPreview
