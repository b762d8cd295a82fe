import CellPreview.Formula.Arguments
import CellPreview.Formula.Expr
import CellPreview.Formula.Lexer

/-!
# Parsing

A formula is a comparison of sums, or one sum; a sum joins operands with plus
signs; an operand is a literal, a reference, a parenthesised formula or a call
of `if`. The arguments of a call are cut out first and parsed on their own, and
what cannot be parsed becomes an invalid expression with its source text.

Every parser takes the tokens that remain and gives back those it leaves. What
may stand inside parentheses is itself a parser, handed down by the level
outside; at the innermost level none is handed down, which bounds the nesting.
-/

namespace CellPreview
namespace Formula

/-- A parser of the first tokens of a list, which gives back the others. -/
abbrev Step (α : Type) := List Token -> Except Error (α × List Token)

/-- Deepest nesting of parentheses and calls in one formula. -/
def nestingLimit : Nat := 128

/-- The error for a token that must not stand where it does. -/
def Token.misplaced (token : Token) : Error :=
  .unexpected token.kind.shown token.start

/-- The comparison operator that a token stands for. -/
def Token.Kind.comparison? : Token.Kind -> Option Comparison
  | .equals => some .equal
  | .atMost => some .atMost
  | .atLeast => some .atLeast
  | _ => none

namespace Parser

/-- Operands that follow, each after a plus sign. No more than `count` are
read, which is no restriction when there are at most that many tokens. -/
def moreOperands (operand : Step Expr) : Nat -> Step (List Expr)
  | 0, tokens => .ok ([], tokens)
  | _ + 1, [] => .ok ([], [])
  | count + 1, token :: rest =>
      if token.kind = .plus then do
        let (next, rest) <- operand rest
        let (others, rest) <- moreOperands operand count rest
        return (next :: others, rest)
      else
        .ok ([], token :: rest)

/-- Operands joined by plus signs. -/
def sum (operand : Step Expr) : Step Expr := fun tokens => do
  let (first, rest) <- operand tokens
  let (others, rest) <- moreOperands operand rest.length rest
  return (first.sum others, rest)

/-- A sum, or a comparison of two sums. -/
def comparison (operand : Step Expr) : Step Expr := fun tokens => do
  let (left, rest) <- sum operand tokens
  match rest with
  | [] => return (left, [])
  | token :: others =>
      match token.kind.comparison? with
      | none => return (left, rest)
      | some operator => do
          let (right, rest) <- sum operand others
          return (.compare operator left right, rest)

/-- A formula that uses up all tokens. -/
def complete (operand : Step Expr) (tokens : List Token) :
    Except Error Expr :=
  if tokens.isEmpty then .error .empty
  else do
    let (formula, rest) <- comparison operand tokens
    match rest with
    | [] => return formula
    | token :: _ => throw token.misplaced

/-- A formula that uses up all tokens, or their source text as an invalid
expression. -/
def fragment (operand : Step Expr) (tokens : List Token) : Expr :=
  match complete operand tokens with
  | .ok formula => formula
  | .error cause => .invalid (Token.source tokens) cause

/-- The rest of a parenthesised formula whose opening parenthesis has a given
offset. -/
def group (operand : Step Expr) (opening : Nat) : Step Expr := fun tokens => do
  let (formula, rest) <- comparison operand tokens
  match rest with
  | [] => throw (.unclosed opening)
  | token :: others =>
      if token.kind = .rightParen then return (formula, others)
      else throw token.misplaced

/-- Arguments of a call of `if`, of which there are at least three. -/
def callArguments (tokens : List Token) :
    Except Error ((List Token × List Token × List Token) × List Token) :=
  match tokens with
  | [] => .error .unexpectedEnd
  | token :: rest =>
      if token.kind = .leftParen then
        match arguments? rest with
        | none => .error (.unclosed token.start)
        | some (condition :: whenTrue :: otherwise :: _, after) =>
            .ok ((condition, whenTrue, otherwise), after)
        | some (arguments, _) => .error (.tooFewArguments arguments.length)
      else
        .error token.misplaced

/-- One operand. `inner` parses the operands one level further in, and is
missing at the level where nothing more may be nested. -/
def primary (inner : Option (Step Expr)) : Step Expr
  | [] => .error .unexpectedEnd
  | token :: rest =>
      match token.kind with
      | .text content => .ok (.text content, rest)
      | .number numeral => .ok (.number numeral, rest)
      | .field => .ok (.field, rest)
      | .now => .ok (.now, rest)
      | .reference name => .error (.unknownReference name token.start)
      | .leftParen =>
          match inner with
          | none => .error (.tooDeep nestingLimit)
          | some operand => group operand token.start rest
      | .word name =>
          if name = ['i', 'f'] then do
            let ((condition, whenTrue, otherwise), after) <- callArguments rest
            match inner with
            | none => throw (.tooDeep nestingLimit)
            | some operand =>
                return (.choose (fragment operand condition)
                  (fragment operand whenTrue) (fragment operand otherwise),
                  after)
          else
            .error token.misplaced
      | _ => .error token.misplaced

/-- One operand with at most `levels` levels nested in it. -/
def operand : Nat -> Step Expr
  | 0 => primary none
  | levels + 1 => primary (some (operand levels))

end Parser

/-- Parse a formula body in which at most `levels` levels may be nested. -/
def parseWithin (levels : Nat) (body : Text) : Expr :=
  match tokenize body with
  | .ok tokens => Parser.fragment (Parser.operand levels) tokens
  | .error cause => .invalid body.trim cause

/-- Parse a formula body, the text after the equals sign. -/
def parse (body : Text) : Expr :=
  parseWithin nestingLimit body

end Formula
end CellPreview
