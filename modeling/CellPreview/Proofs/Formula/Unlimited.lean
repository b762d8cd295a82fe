import CellPreview.Proofs.Formula.Nesting

/-!
# The parser without a limit

Without a limit on the nesting there is no innermost level: the parser of an
operand is handed down to itself. There is exactly one such parser, and every
parser with enough levels for the tokens at hand agrees with it.
-/

namespace CellPreview
namespace Formula
namespace Parser

/-- One operand with any number of levels nested in it. There are no more levels
than tokens. -/
def unlimited : Step Expr :=
  fun tokens => operand tokens.length tokens

theorem depth_le_length (run : List Token.Kind) : depth run ≤ run.length := by
  induction run with
  | nil => exact Nat.le_refl 0
  | cons kind run inductionHypothesis =>
      cases kind <;> simp [depth] <;> omega

/-- Levels that the tokens do not reach have no influence on an operand. -/
theorem operand_add_agree (levels more : Nat) :
    AgreeWithin levels (operand levels) (operand (levels + more)) := by
  induction more with
  | zero =>
      intro tokens _
      rfl
  | succ more inductionHypothesis =>
      intro tokens within
      rw [inductionHypothesis tokens within]
      exact operand_agree (levels + more) tokens (by omega)

/-- Every number of levels that the tokens keep within is as good as no
limit. -/
theorem operand_agree_unlimited (levels : Nat) :
    AgreeWithin levels (operand levels) unlimited := by
  intro tokens within
  have enough : depth (kinds tokens) ≤ tokens.length := by
    simpa [kinds] using depth_le_length (kinds tokens)
  -- both numbers are enough for the tokens, so the larger agrees with the
  -- smaller
  obtain isFewer | isMore := Nat.le_total levels tokens.length
  · obtain ⟨more, same⟩ := Nat.exists_eq_add_of_le isFewer
    rw [unlimited, same]
    exact operand_add_agree levels more tokens within
  · obtain ⟨more, rfl⟩ := Nat.exists_eq_add_of_le isMore
    exact (operand_add_agree tokens.length more tokens enough).symm

/-- A parser that is handed down to itself reads what is read with enough
levels. -/
theorem operand_agree_of_eq_primary
    {step : Step Expr}
    (unfolds : step = primary (some step))
    (levels : Nat) :
    AgreeWithin levels (operand levels) step := by
  induction levels with
  | zero =>
      rw [unfolds]
      exact primary_none_agree step
  | succ levels inductionHypothesis =>
      rw [unfolds]
      exact primary_agree (reads_operand levels) IsOperand.isArgument
        inductionHypothesis

/-- The parser without a limit is the one that is handed down to itself. -/
theorem eq_primary_iff_eq_unlimited (step : Step Expr) :
    step = primary (some step) ↔ step = unlimited := by
  constructor
  · intro unfolds
    funext tokens
    have within := Nat.le_refl (depth (kinds tokens))
    rw [← operand_agree_unlimited _ tokens within]
    exact (operand_agree_of_eq_primary unfolds _ tokens within).symm
  · rintro rfl
    funext tokens
    have within := Nat.le_succ (depth (kinds tokens))
    rw [← operand_agree_unlimited _ tokens within]
    exact primary_agree (reads_operand _) IsOperand.isArgument
      (operand_agree_unlimited _) tokens within

/-- A fragment is read with enough levels as it is read without a limit. -/
theorem fragment_unlimited
    {levels : Nat}
    {tokens : List Token}
    (within : depth (kinds tokens) ≤ levels) :
    fragment unlimited tokens = fragment (operand levels) tokens :=
  (fragment_agree (reads_operand levels) IsOperand.isArgument
    (operand_agree_unlimited levels) within).symm

end Parser

/-- Parse a formula body in which any number of levels may be nested. -/
def parseUnlimited (body : Text) : Expr :=
  match tokenize body with
  | .ok tokens => Parser.fragment Parser.unlimited tokens
  | .error cause => .invalid body.trim cause

end Formula
end CellPreview
