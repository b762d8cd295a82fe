import CellPreview.Proofs.Formula.Reading

/-!
# Nesting

Tokens that open no more parentheses at once than may be nested are parsed in
the same way when more may be nested, and so are tokens with a mistake in them.
The parsers agree on what remains as well, since what they read is balanced and
leaves nothing deeper behind.
-/

namespace CellPreview
namespace Formula
namespace Parser

/-- Two parsers have the same outcome wherever at most `levels` parentheses are
open at once. -/
def AgreeWithin (levels : Nat) (first second : Step Expr) : Prop :=
  ∀ tokens, depth (kinds tokens) ≤ levels -> first tokens = second tokens

/-- What is left after a balanced run is no deeper than the whole. -/
theorem depth_rest_le
    {levels : Nat}
    {used rest : List Token}
    (argument : IsArgument (kinds used))
    (within : depth (kinds (used ++ rest)) ≤ levels) :
    depth (kinds rest) ≤ levels := by
  rw [kinds_append, argument.depth_append] at within
  omega

theorem depth_kinds_cons
    {token : Token}
    (notLeft : token.kind ≠ .leftParen)
    (notRight : token.kind ≠ .rightParen)
    (tokens : List Token) :
    depth (kinds (token :: tokens)) = depth (kinds tokens) := by
  rw [kinds_cons, depth_cons notLeft notRight]

/-- The arguments of a call are less deep than the call. -/
theorem depth_lt_of_callArguments
    {tokens rest condition whenTrue otherwise : List Token}
    (found : callArguments tokens = .ok ((condition, whenTrue, otherwise), rest)) :
    ∀ run ∈ [condition, whenTrue, otherwise],
      depth (kinds run) < depth (kinds tokens) := by
  obtain ⟨opening, inside, others, rfl, isOpening, split⟩ :=
    callArguments_eq_ok_iff.mp found
  intro run present
  have listed : run ∈ condition :: whenTrue :: otherwise :: others :=
    List.mem_append_left others present
  have runDepth := split.depth_le run listed
  rw [kinds_cons, isOpening, depth_leftParen]
  omega

section

variable {levels : Nat} {first second : Step Expr} {reading : Reading Expr}

theorem moreOperands_agree
    (reads : Reads first reading)
    (balanced : forall {used value}, reading used value ->
      IsArgument (kinds used))
    (agree : AgreeWithin levels first second)
    (count : Nat)
    {tokens : List Token}
    (within : depth (kinds tokens) ≤ levels) :
    moreOperands first count tokens = moreOperands second count tokens := by
  induction count generalizing tokens with
  | zero => rfl
  | succ count inductionHypothesis =>
      cases tokens with
      | nil => rfl
      | cons token tokens =>
          rw [moreOperands, moreOperands]
          split
          · rename_i isPlus
            rw [depth_kinds_cons (by simp [isPlus]) (by simp [isPlus])] at within
            rw [← agree tokens within]
            apply Outcome.bind_congr
            rintro ⟨value, rest⟩ found
            -- what was read is balanced, so the rest keeps within the levels
            obtain ⟨used, rfl, isValue⟩ := reads.sound found
            dsimp only
            rw [inductionHypothesis (depth_rest_le (balanced isValue) within)]
          · rfl

theorem sum_agree
    (reads : Reads first reading)
    (balanced : forall {used value}, reading used value ->
      IsArgument (kinds used))
    (agree : AgreeWithin levels first second) :
    AgreeWithin levels (sum first) (sum second) := by
  intro tokens within
  rw [sum, sum, ← agree tokens within]
  apply Outcome.bind_congr
  rintro ⟨value, rest⟩ found
  obtain ⟨used, rfl, isValue⟩ := reads.sound found
  dsimp only
  rw [moreOperands_agree reads balanced agree _
    (depth_rest_le (balanced isValue) within)]

theorem comparison_agree
    (reads : Reads first reading)
    (balanced : forall {used value}, reading used value ->
      IsArgument (kinds used))
    (agree : AgreeWithin levels first second) :
    AgreeWithin levels (comparison first) (comparison second) := by
  intro tokens within
  rw [comparison, comparison, ← sum_agree reads balanced agree tokens within]
  apply Outcome.bind_congr
  rintro ⟨left, rest⟩ found
  obtain ⟨used, rfl, isLeft⟩ := sum_sound reads found
  have restWithin := depth_rest_le (isLeft.isArgument balanced) within
  cases rest with
  | nil => rfl
  | cons token others =>
      dsimp only
      cases isOperator : token.kind.comparison? with
      | none => rfl
      | some operator =>
          have notLeft : token.kind ≠ .leftParen := by
            intro isLeft
            rw [isLeft] at isOperator
            cases isOperator
          have notRight : token.kind ≠ .rightParen := by
            intro isRight
            rw [isRight] at isOperator
            cases isOperator
          rw [depth_kinds_cons notLeft notRight] at restWithin
          dsimp only
          rw [sum_agree reads balanced agree others restWithin]

theorem fragment_agree
    (reads : Reads first reading)
    (balanced : forall {used value}, reading used value ->
      IsArgument (kinds used))
    (agree : AgreeWithin levels first second)
    {tokens : List Token}
    (within : depth (kinds tokens) ≤ levels) :
    fragment first tokens = fragment second tokens := by
  rw [fragment, fragment, complete, complete,
    comparison_agree reads balanced agree tokens within]

/-- One more level agrees inside of parentheses, so it agrees around them. -/
theorem primary_agree
    (reads : Reads first reading)
    (balanced : forall {used value}, reading used value ->
      IsArgument (kinds used))
    (agree : AgreeWithin levels first second) :
    AgreeWithin (levels + 1) (primary (some first)) (primary (some second)) := by
  intro tokens within
  cases tokens with
  | nil => rfl
  | cons token tokens =>
      rw [primary.eq_def, primary.eq_def]
      dsimp only
      cases kind : token.kind with
      | leftParen =>
          rw [kinds_cons, kind, depth_leftParen] at within
          dsimp only
          rw [group, group, comparison_agree reads balanced agree tokens
            (by omega)]
      | word name =>
          dsimp only
          split
          · apply Outcome.bind_congr
            rintro ⟨⟨condition, whenTrue, otherwise⟩, after⟩ found
            rw [depth_kinds_cons (by simp [kind]) (by simp [kind])] at within
            have argument (run : List Token)
                (present : run ∈ [condition, whenTrue, otherwise]) :
                fragment first run = fragment second run := by
              have runDepth := depth_lt_of_callArguments found run present
              exact fragment_agree reads balanced agree (by omega)
            simp only [argument condition (by simp),
              argument whenTrue (by simp), argument otherwise (by simp)]
          · rfl
      | _ => rfl

end

/-- Without parentheses, nothing is nested. -/
theorem primary_none_agree (inner : Step Expr) :
    AgreeWithin 0 (primary none) (primary (some inner)) := by
  intro tokens within
  cases tokens with
  | nil => rfl
  | cons token tokens =>
      rw [primary.eq_def, primary.eq_def]
      dsimp only
      cases kind : token.kind with
      | leftParen =>
          rw [kinds_cons, kind, depth_leftParen] at within
          omega
      | word name =>
          dsimp only
          split
          · apply Outcome.bind_congr
            rintro ⟨⟨condition, whenTrue, otherwise⟩, after⟩ found
            rw [depth_kinds_cons (by simp [kind]) (by simp [kind])] at within
            have deeper := depth_lt_of_callArguments found condition (by simp)
            omega
          · rfl
      | _ => rfl

/-- A level that the tokens do not reach has no influence on an operand. -/
theorem operand_agree (levels : Nat) :
    AgreeWithin levels (operand levels) (operand (levels + 1)) := by
  induction levels with
  | zero => exact primary_none_agree (operand 0)
  | succ levels inductionHypothesis =>
      exact primary_agree (reads_operand levels) IsOperand.isArgument
        inductionHypothesis

/-- A level that the tokens do not reach has no influence on a fragment, be it
well formed or not. -/
theorem fragment_operand_succ
    {levels : Nat}
    {tokens : List Token}
    (within : depth (kinds tokens) ≤ levels) :
    fragment (operand (levels + 1)) tokens =
      fragment (operand levels) tokens :=
  (fragment_agree (reads_operand levels) IsOperand.isArgument
    (operand_agree levels) within).symm

end Parser
end Formula
end CellPreview
