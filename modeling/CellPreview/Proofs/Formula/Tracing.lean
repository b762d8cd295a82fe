import CellPreview.Proofs.Formula.Reading
import CellPreview.Proofs.Formula.Source

/-!
# From tokens to what is read from them

What is read from a run of tokens is put together from what is read from shorter
runs inside it. So a relation between tokens and formulas that holds of the
leaves, of malformed pieces and of a formula as soon as it holds of the operands
or arguments in it, holds of everything that is parsed. The arguments of a call
are described by the site where the call stands.
-/

namespace CellPreview
namespace Formula

open CellPreview.Formula.Parser

/-! ## Calls -/

/-- The tokens of a call of `if` up to the delimiter behind its third
argument, which is a comma when there are more arguments. -/
structure CallSite where
  name : Token
  opening : Token
  condition : List Token
  firstComma : Token
  whenTrue : List Token
  secondComma : Token
  otherwise : List Token
  closing : Token
  isName : name.kind = .word ['i', 'f']
  isOpening : opening.kind = .leftParen
  conditionArgument : IsArgument (kinds condition)
  isFirstComma : firstComma.kind = .comma
  whenTrueArgument : IsArgument (kinds whenTrue)
  isSecondComma : secondComma.kind = .comma
  otherwiseArgument : IsArgument (kinds otherwise)
  isClosing : closing.kind = .comma ∨ closing.kind = .rightParen

namespace CallSite

/-- The tokens of a site, in order. -/
def tokens (site : CallSite) : List Token :=
  site.name :: site.opening :: site.condition ++
    site.firstComma :: site.whenTrue ++
    site.secondComma :: site.otherwise ++ [site.closing]

/-- What is parsed at a site when at most `levels` levels may be nested in each
argument. -/
def value (levels : Nat) (site : CallSite) : Expr :=
  .choose (fragment (operand levels) site.condition)
    (fragment (operand levels) site.whenTrue)
    (fragment (operand levels) site.otherwise)

/-- The arguments of a site, each between its two delimiters. -/
def arguments (site : CallSite) : List (Token × List Token × Token) :=
  [(site.opening, site.condition, site.firstComma),
    (site.firstComma, site.whenTrue, site.secondComma),
    (site.secondComma, site.otherwise, site.closing)]

theorem exists_tokens_eq
    {site : CallSite}
    {left right : Token}
    {run : List Token}
    (isArgument : (left, run, right) ∈ site.arguments) :
    ∃ before after, site.tokens = before ++ left :: run ++ right :: after := by
  simp only [arguments, List.mem_cons, List.not_mem_nil, or_false,
    Prod.mk.injEq] at isArgument
  obtain ⟨rfl, rfl, rfl⟩ | ⟨rfl, rfl, rfl⟩ | ⟨rfl, rfl, rfl⟩ := isArgument
  · exact ⟨[site.name], site.whenTrue ++ site.secondComma :: site.otherwise ++
      [site.closing], by simp [tokens]⟩
  · exact ⟨site.name :: site.opening :: site.condition,
      site.otherwise ++ [site.closing], by simp [tokens]⟩
  · exact ⟨site.name :: site.opening :: site.condition ++
      site.firstComma :: site.whenTrue, [], by simp [tokens]⟩

theorem isInfix
    {site : CallSite}
    {left right : Token}
    {run : List Token}
    (isArgument : (left, run, right) ∈ site.arguments) :
    run <:+: site.tokens := by
  obtain ⟨before, after, same⟩ := exists_tokens_eq isArgument
  exact ⟨before ++ [left], right :: after, by simp [same]⟩

end CallSite

namespace Parser

/-- The tokens of a call start with a site. -/
theorem IsCall.exists_site
    {levels : Nat}
    {used : List Token}
    {value : Expr}
    (isCall : IsCall (operand levels) used value) :
    ∃ site : CallSite, site.tokens <+: used ∧ value = site.value levels := by
  cases isCall with
  | @call name opening inside condition whenTrue otherwise others isName
      isOpening split =>
      have arguments := split.isArgument
      have conditionArgument := arguments condition (by simp)
      have whenTrueArgument := arguments whenTrue (by simp)
      have otherwiseArgument := arguments otherwise (by simp)
      cases split with
      | more _ isFirstComma split =>
      cases split with
      | more _ isSecondComma split =>
      cases split with
      | last _ isClosing =>
          refine ⟨⟨name, opening, condition, _, whenTrue, _, otherwise, _,
            isName, isOpening, conditionArgument, isFirstComma,
            whenTrueArgument, isSecondComma, otherwiseArgument,
            .inr isClosing⟩, ?_, rfl⟩
          exact ⟨[], by simp [CallSite.tokens]⟩
      | @more _ _ rest _ _ _ _ isClosing _ =>
          refine ⟨⟨name, opening, condition, _, whenTrue, _, otherwise, _,
            isName, isOpening, conditionArgument, isFirstComma,
            whenTrueArgument, isSecondComma, otherwiseArgument,
            .inl isClosing⟩, ?_, rfl⟩
          exact ⟨rest, by simp [CallSite.tokens]⟩

end Parser

/-! ## Tracing -/

/-- A relation between runs of tokens and formulas that passes from what is read
from shorter runs to what is read from longer ones. -/
structure Traces (holds : Reading Expr) : Prop where
  mono {used more : List Token} {value : Expr} :
    holds used value -> used <:+: more -> holds more value
  atom {used : List Token} {value : Expr} :
    IsAtom used value -> holds used value
  sum {used : List Token} {first : Expr} {others : List Expr} :
    (∀ operand ∈ first :: others, holds used operand) ->
    holds used (first.sum others)
  compare {used : List Token} {left right : Expr} (operator : Comparison) :
    holds used left -> holds used right ->
    holds used (.compare operator left right)
  call (site : CallSite) (levels : Nat) :
    (∀ argument ∈ site.arguments,
      holds site.tokens (fragment (operand levels) argument.2.1)) ->
    holds site.tokens (site.value levels)
  invalid (tokens : List Token) (cause : Error) :
    holds tokens (.invalid (Token.source tokens) cause)

namespace Traces

variable {holds : Reading Expr}

section

variable {reading : Reading Expr}

theorem isMore
    (traces : Traces holds)
    (traced : forall {used value}, reading used value -> holds used value)
    {used : List Token}
    {values : List Expr}
    (areMore : IsMore reading used values) :
    ∀ value ∈ values, holds used value := by
  induction areMore with
  | none => simp
  | @operand plus used others value values _ isValue _ inductionHypothesis =>
      intro other present
      obtain rfl | present := List.mem_cons.mp present
      · exact traces.mono (traced isValue) ⟨[plus], others, by simp⟩
      · exact traces.mono (inductionHypothesis other present)
          (List.suffix_append _ _).isInfix

theorem isSum
    (traces : Traces holds)
    (traced : forall {used value}, reading used value -> holds used value)
    {used : List Token}
    {value : Expr}
    (isSum : IsSum reading used value) :
    holds used value := by
  cases isSum with
  | @sum used others first values isFirst areOthers =>
      apply traces.sum
      intro operand present
      obtain rfl | present := List.mem_cons.mp present
      · exact traces.mono (traced isFirst) (List.prefix_append _ _).isInfix
      · exact traces.mono (traces.isMore traced areOthers operand present)
          (List.suffix_append _ _).isInfix

theorem isComparison
    (traces : Traces holds)
    (traced : forall {used value}, reading used value -> holds used value)
    {used : List Token}
    {value : Expr}
    (isComparison : IsComparison reading used value) :
    holds used value := by
  cases isComparison with
  | sum isSum => exact traces.isSum traced isSum
  | @compare token operator before after left right isLeft _ isRight =>
      have leftHolds := traces.mono (traces.isSum traced isLeft)
        (List.prefix_append before (token :: after)).isInfix
      have rightHolds := traces.mono (traces.isSum traced isRight)
        (⟨before ++ [token], [], by simp⟩ :
          after <:+: before ++ token :: after)
      exact traces.compare operator leftHolds rightHolds

end

theorem fragment_of_operand
    {levels : Nat}
    (traces : Traces holds)
    (traced : forall {used value}, IsOperand levels used value ->
      holds used value)
    (tokens : List Token) :
    holds tokens (fragment (operand levels) tokens) := by
  obtain isFormula | ⟨cause, isInvalid⟩ := fragment_cases levels tokens
  · exact traces.isComparison traced isFormula
  · rw [isInvalid]
    exact traces.invalid tokens cause

theorem isOperand
    {levels : Nat}
    (traces : Traces holds)
    {used : List Token}
    {value : Expr}
    (isOperand : IsOperand levels used value) :
    holds used value := by
  induction levels generalizing used value with
  | zero => exact traces.atom isOperand
  | succ levels inductionHypothesis =>
      obtain isAtom | isGroup | isCall := isOperand
      · exact traces.atom isAtom
      · cases isGroup with
        | @group opening closing inside _ _ isFormula _ =>
            exact traces.mono (traces.isComparison inductionHypothesis isFormula)
              ⟨[opening], [closing], by simp⟩
      · obtain ⟨site, stands, rfl⟩ := isCall.exists_site
        refine traces.mono (traces.call site levels ?_) stands.isInfix
        rintro ⟨left, run, right⟩ isArgument
        exact traces.mono (traces.fragment_of_operand inductionHypothesis run)
          (CallSite.isInfix isArgument)

/-- The relation holds of every run of tokens and what it is parsed to. -/
theorem fragment (traces : Traces holds) (levels : Nat) (tokens : List Token) :
    holds tokens (Parser.fragment (operand levels) tokens) :=
  traces.fragment_of_operand traces.isOperand tokens

end Traces
end Formula
end CellPreview
