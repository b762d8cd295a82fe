import CellPreview.Proofs.Formula.Reading

/-!
# Causes of malformed pieces

Every cause that the parsers give for a run of tokens is about a token of the
run, or names no place at all. A parenthesis is only reported as unclosed where
the run really leaves one open, so a balanced run has no such cause.
-/

namespace CellPreview
namespace Formula
namespace Parser

/-- Runs that leave none of the parentheses open that were open before them or
that they open themselves. -/
def Closes (tokens : List Token) : Prop :=
  ∃ level, levelThrough? level (kinds tokens) = some 0

theorem closes_of_isArgument
    {tokens : List Token}
    (argument : IsArgument (kinds tokens)) :
    Closes tokens :=
  ⟨0, argument⟩

/-- What a run ends with closes no less than the run. -/
theorem Closes.of_append
    {before rest : List Token}
    (closes : Closes (before ++ rest)) :
    Closes rest := by
  obtain ⟨level, through⟩ := closes
  rw [kinds_append, levelThrough?_append] at through
  obtain ⟨next, _, through⟩ := Option.bind_eq_some_iff.mp through
  exact ⟨next, through⟩

/-- Causes that the parsers give for a run of tokens. -/
inductive Explains (tokens : List Token) : Error -> Prop
  | misplaced {token : Token} :
      token ∈ tokens -> Explains tokens token.misplaced
  | unclosed {opening : Token} :
      opening ∈ tokens -> opening.kind = .leftParen -> ¬Closes tokens ->
      Explains tokens (.unclosed opening.start)
  | unknownReference {token : Token} {name : Text} :
      token ∈ tokens -> token.kind = .reference name ->
      Explains tokens (.unknownReference name token.start)
  | unexpectedEnd : Explains tokens .unexpectedEnd
  | empty : Explains tokens .empty
  | tooFewArguments {found : Nat} :
      found < 3 -> Explains tokens (.tooFewArguments found)
  | tooDeep : Explains tokens (.tooDeep nestingLimit)

/-- A cause for what a run ends with is a cause for the run. -/
theorem Explains.append
    {rest : List Token}
    {cause : Error}
    (explains : Explains rest cause)
    (before : List Token) :
    Explains (before ++ rest) cause := by
  cases explains with
  | misplaced present => exact .misplaced (List.mem_append_right _ present)
  | unclosed present isOpening leavesOpen =>
      exact .unclosed (List.mem_append_right _ present) isOpening
        (leavesOpen ∘ Closes.of_append)
  | unknownReference present isReference =>
      exact .unknownReference (List.mem_append_right _ present) isReference
  | unexpectedEnd => exact .unexpectedEnd
  | empty => exact .empty
  | tooFewArguments few => exact .tooFewArguments few
  | tooDeep => exact .tooDeep

theorem Explains.cons
    {rest : List Token}
    {cause : Error}
    (explains : Explains rest cause)
    (token : Token) :
    Explains (token :: rest) cause :=
  explains.append [token]

/-- A parser all of whose failures are explained. -/
def FailsWithCause {α : Type} (step : Step α) : Prop :=
  ∀ tokens cause, step tokens = .error cause -> Explains tokens cause

section

variable {operand : Step Expr} {reading : Reading Expr}

theorem failsWithCause_moreOperands
    (reads : Reads operand reading)
    (explained : FailsWithCause operand)
    (count : Nat) :
    FailsWithCause (moreOperands operand count) := by
  induction count with
  | zero => nofun
  | succ count inductionHypothesis =>
      intro tokens cause failed
      cases tokens with
      | nil => cases failed
      | cons token rest =>
          rw [moreOperands] at failed
          split at failed
          · obtain atOnce | ⟨⟨value, middle⟩, valueFound, later⟩ :=
              Outcome.bind_eq_error_iff.mp failed
            · exact (explained rest cause atOnce).cons token
            · obtain inOthers | ⟨_, _, never⟩ :=
                Outcome.bind_eq_error_iff.mp later
              · obtain ⟨used, rfl, _⟩ := reads.sound valueFound
                exact ((inductionHypothesis middle cause inOthers).append
                  used).cons token
              · cases never
          · cases failed

theorem failsWithCause_sum
    (reads : Reads operand reading)
    (explained : FailsWithCause operand) :
    FailsWithCause (sum operand) := by
  intro tokens cause failed
  rw [sum] at failed
  obtain atOnce | ⟨⟨first, middle⟩, firstFound, later⟩ :=
    Outcome.bind_eq_error_iff.mp failed
  · exact explained tokens cause atOnce
  · obtain inOthers | ⟨_, _, never⟩ := Outcome.bind_eq_error_iff.mp later
    · obtain ⟨used, rfl, _⟩ := reads.sound firstFound
      exact (failsWithCause_moreOperands reads explained _ middle cause
        inOthers).append used
    · cases never

theorem failsWithCause_comparison
    (reads : Reads operand reading)
    (explained : FailsWithCause operand) :
    FailsWithCause (comparison operand) := by
  intro tokens cause failed
  rw [comparison] at failed
  obtain inLeft | ⟨⟨left, middle⟩, leftFound, later⟩ :=
    Outcome.bind_eq_error_iff.mp failed
  · exact failsWithCause_sum reads explained tokens cause inLeft
  · obtain ⟨used, rfl, _⟩ := sum_sound reads leftFound
    dsimp only at later
    split at later
    · cases later
    · rename_i token others
      split at later
      · cases later
      · obtain inRight | ⟨_, _, never⟩ := Outcome.bind_eq_error_iff.mp later
        · exact ((failsWithCause_sum reads explained others cause
            inRight).cons token).append used
        · cases never

/-- What makes a fragment malformed is explained by its tokens. -/
theorem explains_of_complete
    (reads : Reads operand reading)
    (explained : FailsWithCause operand)
    {tokens : List Token}
    {cause : Error}
    (failed : complete operand tokens = .error cause) :
    Explains tokens cause := by
  unfold complete at failed
  split at failed
  · cases failed
    exact .empty
  · obtain inFormula | ⟨⟨value, rest⟩, valueFound, later⟩ :=
      Outcome.bind_eq_error_iff.mp failed
    · exact failsWithCause_comparison reads explained tokens cause inFormula
    · obtain ⟨used, rfl, _⟩ := comparison_sound reads valueFound
      cases rest with
      | nil => cases later
      | cons token rest =>
          cases later
          exact .misplaced (by simp)

/-- The parenthesis of a group is unclosed when the tokens end before it is
closed. -/
theorem explains_of_group
    (reads : Reads operand reading)
    (balanced : forall {used value}, reading used value ->
      IsArgument (kinds used))
    (explained : FailsWithCause operand)
    {opening : Token}
    {rest : List Token}
    {cause : Error}
    (isOpening : opening.kind = .leftParen)
    (failed : group operand opening.start rest = .error cause) :
    Explains (opening :: rest) cause := by
  rw [group] at failed
  obtain inside | ⟨⟨value, after⟩, valueFound, later⟩ :=
    Outcome.bind_eq_error_iff.mp failed
  · exact (failsWithCause_comparison reads explained rest cause inside).cons
      opening
  · obtain ⟨inside, rfl, isFormula⟩ := comparison_sound reads valueFound
    cases after with
    | nil =>
        cases later
        refine .unclosed (by simp) isOpening ?_
        -- the formula behind the parenthesis is balanced, so that this level
        -- is never left
        rintro ⟨level, through⟩
        rw [List.append_nil, kinds_cons, isOpening, levelThrough?_cons,
          Token.Kind.levelAfter?, Option.bind_some,
          (isFormula.isArgument balanced).levelThrough?_eq] at through
        cases through
    | cons closing after =>
        dsimp only at later
        split at later
        · cases later
        · cases later
          exact .misplaced (by simp)

end

/-- The parenthesis of a call is unclosed when no token closes it. -/
theorem explains_of_callArguments
    {tokens : List Token}
    {cause : Error}
    (failed : callArguments tokens = .error cause) :
    Explains tokens cause := by
  cases tokens with
  | nil =>
      cases failed
      exact .unexpectedEnd
  | cons opening rest =>
      rw [callArguments] at failed
      split at failed
      · rename_i isOpening
        split at failed
        · rename_i absent
          cases failed
          refine .unclosed (by simp) isOpening ?_
          rintro ⟨level, through⟩
          rw [kinds_cons, isOpening, levelThrough?_cons,
            Token.Kind.levelAfter?, Option.bind_some,
            ← Nat.zero_add (level + 1)] at through
          obtain ⟨found, segmentsFound⟩ := exists_segments?_eq_some through
          rw [arguments?, segmentsFound] at absent
          cases absent
        · cases failed
        · rename_i arguments after notThree found
          cases failed
          apply Explains.tooFewArguments
          obtain _ | ⟨first, _ | ⟨second, _ | ⟨third, others⟩⟩⟩ := arguments
          · exact Nat.zero_lt_succ 2
          · exact Nat.lt_succ_of_lt (Nat.lt_succ_self 1)
          · exact Nat.lt_succ_self 2
          · exact (notThree first second third others rfl).elim
      · cases failed
        exact .misplaced (by simp)

/-- One operand fails with a cause when those inside it do. -/
theorem failsWithCause_primary
    {inner : Option (Step Expr)}
    (explained : ∀ operand ∈ inner, ∃ reading, Reads operand reading ∧
      (forall {used value}, reading used value -> IsArgument (kinds used)) ∧
      FailsWithCause operand) :
    FailsWithCause (primary inner) := by
  intro tokens cause failed
  cases tokens with
  | nil =>
      cases failed
      exact .unexpectedEnd
  | cons token rest =>
      rw [primary.eq_def] at failed
      dsimp only at failed
      cases kind : token.kind with
      | text | number | field | now =>
          rw [kind] at failed
          cases failed
      | reference name =>
          rw [kind] at failed
          cases failed
          exact .unknownReference (by simp) kind
      | leftParen =>
          rw [kind] at failed
          cases inner with
          | none =>
              cases failed
              exact .tooDeep
          | some operand =>
              obtain ⟨reading, reads, balanced, explained⟩ :=
                explained operand rfl
              exact explains_of_group reads balanced explained kind failed
      | word name =>
          rw [kind] at failed
          dsimp only at failed
          split at failed
          · obtain inArguments | ⟨_, _, later⟩ :=
              Outcome.bind_eq_error_iff.mp failed
            · exact (explains_of_callArguments inArguments).cons token
            · cases inner with
              | none =>
                  cases later
                  exact .tooDeep
              | some operand => cases later
          · cases failed
            exact .misplaced (by simp)
      | rightParen | comma | plus | equals | atMost | atLeast | stray =>
          rw [kind] at failed
          cases failed
          exact .misplaced (by simp)

theorem failsWithCause_operand (levels : Nat) :
    FailsWithCause (operand levels) := by
  induction levels with
  | zero => exact failsWithCause_primary (by simp)
  | succ levels inductionHypothesis =>
      apply failsWithCause_primary
      rintro _ ⟨⟩
      exact ⟨IsOperand levels, reads_operand levels, IsOperand.isArgument,
        inductionHypothesis⟩

/-- The cause of a malformed fragment is explained by its tokens. -/
theorem explains_of_fragment_eq_invalid
    {levels : Nat}
    {tokens : List Token}
    {source : Text}
    {cause : Error}
    (isInvalid : fragment (operand levels) tokens = .invalid source cause) :
    Explains tokens cause := by
  cases found : complete (operand levels) tokens with
  | ok value =>
      have isFormula := (complete_eq_ok_iff (reads_operand levels)).mp found
      have wellFormed :=
        isFormula.isInvalid_eq_false IsOperand.isInvalid_eq_false
      rw [fragment, found] at isInvalid
      dsimp only at isInvalid
      rw [isInvalid] at wellFormed
      cases wellFormed
  | error other =>
      rw [fragment, found] at isInvalid
      cases isInvalid
      exact explains_of_complete (reads_operand levels)
        (failsWithCause_operand levels) found

end Parser
end Formula
end CellPreview
