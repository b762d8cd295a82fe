import CellPreview.Formula.Token

/-!
# Arguments of a call

The arguments of a call are the runs of tokens between its parentheses,
separated by the commas that no inner parentheses enclose. They are found
before any of them is parsed, so that a malformed argument leaves its
neighbours alone.
-/

namespace CellPreview
namespace Formula

/-- Put a token in front of the first of some segments. -/
def pushFirst (token : Token) : List (List Token) -> List (List Token)
  | [] => [[token]]
  | segment :: others => (token :: segment) :: others

/-- Segments between the commas of level zero up to the parenthesis that closes
the call, and the tokens after it. Inner parentheses still open are counted by
`level`. -/
def segments? : Nat -> List Token -> Option (List (List Token) × List Token)
  | _, [] => none
  | level, token :: rest =>
      let keep (level : Nat) :=
        (segments? level rest).map fun (segments, after) =>
          (pushFirst token segments, after)
      match token.kind, level with
      | .rightParen, 0 => some ([[]], rest)
      | .rightParen, level + 1 => keep level
      | .leftParen, level => keep (level + 1)
      | .comma, 0 =>
          (segments? 0 rest).map fun (segments, after) =>
            ([] :: segments, after)
      | _, level => keep level

/-- Arguments of a call whose opening parenthesis was just read, and the tokens
after its closing one. A call with nothing inside has no arguments. -/
def arguments? (tokens : List Token) :
    Option (List (List Token) × List Token) :=
  (segments? 0 tokens).map fun (segments, after) =>
    (if segments = [[]] then [] else segments, after)

end Formula
end CellPreview
