import CellPreview.Proofs.Formula.Causes
import CellPreview.Proofs.Formula.Independence
import CellPreview.Proofs.Formula.RoundTrip

/-!
# The shape of parsed formulas

A malformed piece is the whole formula or an argument of a call, and never an
operand of a sum or a side of a comparison, which are as they can be printed.
It keeps a trimmed piece of the text, and as an argument it is never malformed
for want of a closing parenthesis or quote.
-/

namespace CellPreview
namespace Formula

open CellPreview.Formula.Parser

/-- Causes that something is never closed. -/
def Error.IsUnfinished : Error -> Prop
  | .unclosed _ => True
  | .unterminatedText _ => True
  | _ => False

namespace Expr

/-- What a node of a formula that a text is parsed to satisfies. A malformed
piece keeps a trimmed part of the text, and a call that lacks arguments has
fewer than three. An argument of a call may be malformed, but not because
something in it is never closed. Every other node can be printed, and nothing
directly under it is malformed. -/
def IsShapedNode (body : Text) : Expr -> Prop
  | .invalid source cause => source.trim = source ∧ source <:+: body ∧
      ∀ found, cause = .tooFewArguments found -> found < 3
  | .choose condition whenTrue otherwise =>
      ∀ argument ∈ [condition, whenTrue, otherwise], ∀ source cause,
        argument = .invalid source cause -> ¬cause.IsUnfinished
  | formula => formula.IsPrintableNode ∧
      ∀ child ∈ formula.children, child.isInvalid = false

/-- Formulas whose nodes are all as they are in what a text is parsed to. -/
def IsShaped (body : Text) (formula : Expr) : Prop :=
  ∀ part, formula.Contains part -> part.IsShapedNode body

theorem isShaped_of_children
    {body : Text}
    {formula : Expr}
    (node : formula.IsShapedNode body)
    (areShaped : ∀ child ∈ formula.children, child.IsShaped body) :
    formula.IsShaped body := by
  intro part contains
  obtain rfl | ⟨child, isChild, inside⟩ := contains_iff.mp contains
  · exact node
  · exact areShaped child isChild part inside

/-- Well-formed operands make a sum that is well formed throughout. -/
theorem isShaped_sum
    {body : Text}
    {first : Expr}
    {others : List Expr}
    (areShaped : ∀ operand ∈ first :: others, operand.IsShaped body)
    (areValid : ∀ operand ∈ first :: others, operand.isInvalid = false) :
    (first.sum others).IsShaped body := by
  cases others with
  | nil => exact areShaped first List.mem_cons_self
  | cons second others =>
      apply isShaped_of_children
      · obtain ⟨rfl, areIntegers, added⟩ | ⟨notIntegers, concatenated⟩ :=
          sum_cons_cases first second others
        · rw [added]
          exact ⟨areIntegers, areValid⟩
        · rw [concatenated]
          exact ⟨⟨by simp, notIntegers⟩, areValid⟩
      · rwa [children_sum]

/-- Well-formed sides make a comparison that is well formed throughout. -/
theorem isShaped_compare
    {body : Text}
    {left right : Expr}
    (areShaped : ∀ side ∈ [left, right], side.IsShaped body)
    (areValid : ∀ side ∈ [left, right], side.isInvalid = false)
    (operator : Comparison) :
    (Expr.compare operator left right).IsShaped body :=
  isShaped_of_children ⟨trivial, areValid⟩ areShaped

end Expr

/-! ## What is read -/

section

variable {body : Text} {all : List Token} {reading : Reading Expr}

/-- What is read from some of the tokens is well formed at its root, and shaped
throughout. -/
def ShapesOperands (body : Text) (all : List Token) (reading : Reading Expr) :
    Prop :=
  ∀ used value, reading used value -> used <:+: all ->
    value.isInvalid = false ∧ value.IsShaped body

theorem shaped_more
    (shapes : ShapesOperands body all reading)
    {used : List Token}
    {values : List Expr}
    (areMore : IsMore reading used values)
    (within : used <:+: all) :
    ∀ value ∈ values, value.isInvalid = false ∧ value.IsShaped body := by
  induction areMore with
  | none => simp
  | @operand plus used others value values _ isValue _ inductionHypothesis =>
      refine List.forall_mem_cons.mpr ⟨?_, ?_⟩
      · exact shapes used value isValue
          (List.IsInfix.trans ⟨[plus], others, by simp⟩ within)
      · exact inductionHypothesis
          ((List.suffix_append _ _).isInfix.trans within)

theorem shaped_sum
    (shapes : ShapesOperands body all reading) :
    ShapesOperands body all (IsSum reading) := by
  intro used value isSum within
  cases isSum with
  | @sum used others first values isFirst areOthers =>
      have firstShaped := shapes used first isFirst
        ((List.prefix_append _ _).isInfix.trans within)
      have othersShaped := shaped_more shapes areOthers
        ((List.suffix_append _ _).isInfix.trans within)
      constructor
      · cases values with
        | nil => exact firstShaped.1
        | cons second values => exact isInvalid_sum first second values
      · exact Expr.isShaped_sum
          (List.forall_mem_cons.mpr
            ⟨firstShaped.2, fun value present => (othersShaped value present).2⟩)
          (List.forall_mem_cons.mpr
            ⟨firstShaped.1, fun value present => (othersShaped value present).1⟩)

theorem shaped_comparison
    (shapes : ShapesOperands body all reading) :
    ShapesOperands body all (IsComparison reading) := by
  intro used value isComparison within
  cases isComparison with
  | sum isSum => exact shaped_sum shapes used value isSum within
  | @compare token operator before after left right isLeft _ isRight =>
      obtain ⟨leftValid, leftShaped⟩ := shaped_sum shapes before left isLeft
        ((List.prefix_append _ _).isInfix.trans within)
      obtain ⟨rightValid, rightShaped⟩ := shaped_sum shapes after right isRight
        (List.IsInfix.trans ⟨before ++ [token], [], by simp⟩ within)
      exact ⟨rfl, Expr.isShaped_compare
        (Expr.forall_mem_pair leftShaped rightShaped)
        (Expr.forall_mem_pair leftValid rightValid) operator⟩

/-- A literal or a reference is as its token is spelled. -/
theorem shaped_atom (spelled : AllSpelled all) :
    ShapesOperands body all IsAtom := by
  intro used value isAtom within
  have usedSpelled : AllSpelled used := fun token present =>
    spelled token (within.subset present)
  refine ⟨isAtom.isInvalid_eq_false, ?_⟩
  have printable := (printable_of_isAtom isAtom usedSpelled).1.node
  cases isAtom with
  | @token token _ isAtom =>
      unfold Token.Kind.atom? at isAtom
      split at isAtom <;> cases isAtom <;>
        exact Expr.isShaped_of_children ⟨printable, nofun⟩ nofun

/-- A fragment is shaped, and if it is malformed it keeps its own source. -/
theorem shaped_fragment
    {levels : Nat}
    (tokenized : tokenize body = .ok all)
    (shapes : ShapesOperands body all (IsOperand levels))
    {tokens : List Token}
    (within : tokens <:+: all) :
    (fragment (operand levels) tokens).IsShaped body := by
  obtain isFormula | ⟨cause, isInvalid⟩ := fragment_cases levels tokens
  · exact (shaped_comparison shapes tokens _ isFormula within).2
  · have scans := Lexer.scan_eq_ok_iff.mp tokenized
    obtain ⟨trailing, bodyEq, _⟩ := scans.exists_trailing
    have explains := explains_of_fragment_eq_invalid isInvalid
    rw [isInvalid]
    refine Expr.isShaped_of_children ⟨?_, ?_, ?_⟩ nofun
    · exact Token.trim_source fun token present =>
        scans.wellSpaced token (within.subset present)
    · calc Token.source tokens
        _ <:+: Token.written tokens := source_isInfix_written tokens
        _ <:+: Token.written all := isInfix_written_of_isInfix within
        _ <:+: body := bodyEq ▸ (List.prefix_append _ trailing).isInfix
    · rintro found rfl
      cases explains with
      | tooFewArguments few => exact few

/-- In a balanced run nothing is left unclosed. -/
theorem not_isUnfinished_of_isArgument
    {levels : Nat}
    {tokens : List Token}
    {source : Text}
    {cause : Error}
    (argument : IsArgument (kinds tokens))
    (isInvalid : fragment (operand levels) tokens = .invalid source cause) :
    ¬cause.IsUnfinished := by
  have explains := explains_of_fragment_eq_invalid isInvalid
  cases explains with
  | unclosed _ _ leavesOpen =>
      exact absurd (closes_of_isArgument argument) leavesOpen
  | misplaced | unknownReference | unexpectedEnd | empty | tooFewArguments |
    tooDeep => exact id

theorem shaped_call
    {levels : Nat}
    (tokenized : tokenize body = .ok all)
    (shapes : ShapesOperands body all (IsOperand levels)) :
    ShapesOperands body all (IsCall (operand levels)) := by
  intro used value isCall within
  obtain ⟨site, stands, rfl⟩ := isCall.exists_site
  refine ⟨rfl, Expr.isShaped_of_children ?_ ?_⟩
  · exact Expr.forall_mem_arguments
      (fun _ _ => not_isUnfinished_of_isArgument site.conditionArgument)
      (fun _ _ => not_isUnfinished_of_isArgument site.whenTrueArgument)
      (fun _ _ => not_isUnfinished_of_isArgument site.otherwiseArgument)
  · have shaped {left right : Token} {run : List Token}
        (isArgument : (left, run, right) ∈ site.arguments) :
        (fragment (operand levels) run).IsShaped body :=
      shaped_fragment tokenized shapes
        ((CallSite.isInfix isArgument).trans (stands.isInfix.trans within))
    exact Expr.forall_mem_arguments (shaped (.head _))
      (shaped (.tail _ (.head _))) (shaped (.tail _ (.tail _ (.head _))))

/-- What is read as an operand from the tokens of a text is shaped. -/
theorem shaped_operand
    (tokenized : tokenize body = .ok all)
    (levels : Nat) :
    ShapesOperands body all (IsOperand levels) := by
  have spelled : AllSpelled all :=
    (Lexer.scan_eq_ok_iff.mp tokenized).spelled
  induction levels with
  | zero => exact shaped_atom spelled
  | succ levels inductionHypothesis =>
      intro used value isOperand within
      obtain isAtom | isGroup | isCall := isOperand
      · exact shaped_atom spelled used value isAtom within
      · cases isGroup with
        | @group opening closing inside _ _ isFormula _ =>
            exact shaped_comparison inductionHypothesis inside value isFormula
              (List.IsInfix.trans ⟨[opening], [closing], by simp⟩ within)
      · exact shaped_call tokenized inductionHypothesis used value isCall within

end

/-- Every node of what a text is parsed to is as it has to be. -/
theorem isShaped_parse (body : Text) : (parse body).IsShaped body := by
  cases tokenized : tokenize body with
  | ok tokens =>
      rw [parse_eq_fragment tokenized]
      exact shaped_fragment tokenized (shaped_operand tokenized nestingLimit)
        (List.infix_refl tokens)
  | error cause =>
      obtain ⟨start, rfl⟩ := (Lexer.stops_of_scan tokenized).exists_start
      rw [parse_eq_invalid tokenized]
      exact Expr.isShaped_of_children
        ⟨Text.trim_trim body, Text.trim_isInfix body, nofun⟩ nofun

/-- A malformed piece directly under a node is an argument of a call. -/
theorem Expr.IsShaped.exists_choose
    {body : Text}
    {formula node child : Expr}
    (isShaped : formula.IsShaped body)
    (contains : formula.Contains node)
    (isChild : child ∈ node.children)
    (isInvalid : child.isInvalid) :
    ∃ condition whenTrue otherwise,
      node = .choose condition whenTrue otherwise := by
  have shaped := isShaped node contains
  cases node with
  | choose condition whenTrue otherwise =>
      exact ⟨condition, whenTrue, otherwise, rfl⟩
  | text | number | field | now | invalid => cases isChild
  | concat | add | compare =>
      rw [shaped.2 child isChild] at isInvalid
      cases isInvalid

/-- What every text is parsed to. Malformed pieces stand at the root or as
arguments of calls and keep a trimmed part of the text; a call that lacks
arguments has fewer than three; and only at the root can something be left
unclosed. Sums and literals are as they can be printed. -/
theorem parsed_formula_shape (body : Text) :
    (∀ node child, (parse body).Contains node -> child ∈ node.children ->
      child.isInvalid -> ∃ condition whenTrue otherwise,
        node = .choose condition whenTrue otherwise) ∧
    (∀ parts, (parse body).Contains (.concat parts) -> 2 ≤ parts.length ∧
      ∀ left right, parts = [left, right] ->
        (left.isInteger && right.isInteger) = false) ∧
    (∀ left right, (parse body).Contains (.add left right) ->
      left.isInteger && right.isInteger) ∧
    (∀ numeral, (parse body).Contains (.number numeral) -> IsNumeral numeral) ∧
    (∀ content, (parse body).Contains (.text content) ->
      '\'' ∉ content ∨ '"' ∉ content) ∧
    (∀ source cause, (parse body).Contains (.invalid source cause) ->
      source.trim = source ∧ source <:+: body ∧
        ∀ found, cause = .tooFewArguments found -> found < 3) ∧
    (∀ condition whenTrue otherwise,
      (parse body).Contains (.choose condition whenTrue otherwise) ->
      ∀ argument ∈ [condition, whenTrue, otherwise], ∀ source cause,
        argument = .invalid source cause -> ¬cause.IsUnfinished) := by
  have isShaped := isShaped_parse body
  refine ⟨fun node child => isShaped.exists_choose, ?_, ?_, ?_, ?_, ?_, ?_⟩
  · exact fun parts contains => (isShaped _ contains).1
  · exact fun left right contains => (isShaped _ contains).1
  · exact fun numeral contains => (isShaped _ contains).1
  · exact fun content contains => (isShaped _ contains).1
  · exact fun source cause contains => isShaped _ contains
  · exact fun condition whenTrue otherwise contains => isShaped _ contains

/-- A concatenation with a call, of which one argument is empty and another is a
call that lacks arguments. -/
theorem parsed_formula_shape_call :
    let body : Text := "1+if(,if(1),'x')"
    let source : Text := ['i', 'f', '(', '1', ')']
    let short : Expr := .invalid source (.tooFewArguments 1)
    let call : Expr := .choose (.invalid [] .empty) short (.text ['x'])
    let parts : List Expr := [.number ['1'], call]
    (parse body).Contains (.concat parts) ∧
    (∃ condition whenTrue otherwise,
      call = .choose condition whenTrue otherwise) ∧
    (2 ≤ parts.length ∧ ∀ left right, parts = [left, right] ->
      (left.isInteger && right.isInteger) = false) ∧
    IsNumeral ['1'] ∧
    ('\'' ∉ ['x'] ∨ '"' ∉ ['x']) ∧
    (source.trim = source ∧ source <:+: body ∧ ∀ found,
      Error.tooFewArguments 1 = .tooFewArguments found -> found < 3) ∧
    ¬(Error.tooFewArguments 1).IsUnfinished := by
  intro body source short call parts
  have tokenized : tokenize body = .ok
      [⟨.number ['1'], 0, [], ['1']⟩, ⟨.plus, 1, [], ['+']⟩,
        ⟨.word ['i', 'f'], 2, [], ['i', 'f']⟩, ⟨.leftParen, 4, [], ['(']⟩,
        ⟨.comma, 5, [], [',']⟩, ⟨.word ['i', 'f'], 6, [], ['i', 'f']⟩,
        ⟨.leftParen, 8, [], ['(']⟩, ⟨.number ['1'], 9, [], ['1']⟩,
        ⟨.rightParen, 10, [], [')']⟩, ⟨.comma, 11, [], [',']⟩,
        ⟨.text ['x'], 12, [], ['\'', 'x', '\'']⟩,
        ⟨.rightParen, 15, [], [')']⟩] := by
    with_unfolding_all rfl
  have parsed : parse body = .concat parts := by
    rw [parse_eq_fragment tokenized]
    rfl
  have whole : (parse body).Contains (.concat parts) := by
    rw [parsed]
    exact .self _
  have inside {part : Expr} (contains : call.Contains part) :
      (parse body).Contains part := by
    rw [parsed]
    exact .child (.tail _ (.head _)) contains
  obtain ⟨underCalls, sums, _, numerals, texts, sources, arguments⟩ :=
    parsed_formula_shape body
  refine ⟨whole, ?_, sums parts whole, ?_, ?_, ?_, ?_⟩
  · exact underCalls call short (inside (.self _)) (.tail _ (.head _)) rfl
  · apply numerals
    rw [parsed]
    exact .child (.head _) (.self _)
  · exact texts ['x'] (inside (.child (.tail _ (.tail _ (.head _))) (.self _)))
  · exact sources source _ (inside (.child (.tail _ (.head _)) (.self _)))
  · exact arguments _ _ _ (inside (.self _)) short (.tail _ (.head _)) source _
      rfl

end Formula
end CellPreview
