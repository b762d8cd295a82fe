import CellPreview.Formula.Parser
import CellPreview.Proofs.Formula.Part
import CellPreview.Proofs.Formula.Splitting
import CellPreview.Proofs.Outcome

/-!
# Runs that are read

What the parsers accept is described by relations between a run of tokens and
its value, one for each parser. The relations know nothing of the tokens that
are left over. The main statement is that one operand is read from the front of
a list exactly when a run that the relation allows stands there; it is proved
for one level of nesting at a time, from the same statement for the level
inside.
-/

namespace CellPreview
namespace Formula

/-- The value of a token that is an operand by itself. -/
def Token.Kind.atom? : Token.Kind -> Option Expr
  | .text content => some (.text content)
  | .number numeral => some (.number numeral)
  | .field => some .field
  | .now => some .now
  | _ => none

/-- A literal or a reference has no other formulas in it. -/
theorem Token.Kind.children_of_atom?
    {kind : Token.Kind}
    {value : Expr}
    (isAtom : kind.atom? = some value) :
    value.children = [] := by
  unfold atom? at isAtom
  split at isAtom <;> cases isAtom <;> rfl

/-- Whether a formula as a whole is malformed. -/
def Expr.isInvalid : Expr -> Bool
  | .invalid _ _ => true
  | _ => false

namespace Parser

/-- Runs of tokens with their values. -/
abbrev Reading (α : Type) := List Token -> α -> Prop

/-- Further operands, each after a plus sign. -/
inductive IsMore (operand : Reading Expr) : Reading (List Expr)
  | none : IsMore operand [] []
  | operand {plus : Token} {used others : List Token} {value : Expr}
      {values : List Expr} :
      plus.kind = .plus ->
      operand used value ->
      IsMore operand others values ->
      IsMore operand (plus :: used ++ others) (value :: values)

/-- Operands joined by plus signs. -/
inductive IsSum (operand : Reading Expr) : Reading Expr
  | sum {used others : List Token} {first : Expr} {values : List Expr} :
      operand used first ->
      IsMore operand others values ->
      IsSum operand (used ++ others) (first.sum values)

/-- A sum, or a comparison of two sums. -/
inductive IsComparison (operand : Reading Expr) : Reading Expr
  | sum {used : List Token} {value : Expr} :
      IsSum operand used value ->
      IsComparison operand used value
  | compare {token : Token} {operator : Comparison} {before after : List Token}
      {left right : Expr} :
      IsSum operand before left ->
      token.kind.comparison? = some operator ->
      IsSum operand after right ->
      IsComparison operand (before ++ token :: after)
        (.compare operator left right)

/-- A literal or a reference. -/
inductive IsAtom : Reading Expr
  | token {token : Token} {value : Expr} :
      token.kind.atom? = some value -> IsAtom [token] value

/-- A formula in parentheses. -/
inductive IsGroup (operand : Reading Expr) : Reading Expr
  | group {opening closing : Token} {inside : List Token} {value : Expr} :
      opening.kind = .leftParen ->
      IsComparison operand inside value ->
      closing.kind = .rightParen ->
      IsGroup operand (opening :: inside ++ [closing]) value

/-- A call of `if`, of whose arguments the first three are read, whatever
they hold. -/
inductive IsCall (operand : Step Expr) : Reading Expr
  | call {name opening : Token} {inside condition whenTrue otherwise : List Token}
      {others : List (List Token)} :
      name.kind = .word ['i', 'f'] ->
      opening.kind = .leftParen ->
      Split 0 inside (condition :: whenTrue :: otherwise :: others) [] ->
      IsCall operand (name :: opening :: inside)
        (.choose (fragment operand condition) (fragment operand whenTrue)
          (fragment operand otherwise))

/-- One operand, with a parser for the operands inside it and the runs that
this parser reads. -/
inductive IsPrimary (inner : Step Expr) (operand : Reading Expr) : Reading Expr
  | atom {used : List Token} {value : Expr} :
      IsAtom used value -> IsPrimary inner operand used value
  | group {used : List Token} {value : Expr} :
      IsGroup operand used value -> IsPrimary inner operand used value
  | call {used : List Token} {value : Expr} :
      IsCall inner used value -> IsPrimary inner operand used value

/-- One operand with at most `levels` levels nested in it. -/
def IsOperand : Nat -> Reading Expr
  | 0 => IsAtom
  | levels + 1 => IsPrimary (operand levels) (IsOperand levels)

/-- A formula with at most `levels` levels nested in it. -/
abbrev IsFormula (levels : Nat) : Reading Expr :=
  IsComparison (IsOperand levels)

/-- A parser reads exactly the runs of a relation from the front of a list,
and none of them is empty. -/
structure Reads {α : Type} (step : Step α) (reading : Reading α) : Prop where
  nonempty {used : List Token} {value : α} : reading used value -> used ≠ []
  sound {tokens rest : List Token} {value : α} :
    step tokens = .ok (value, rest) ->
    ∃ used, tokens = used ++ rest ∧ reading used value
  complete {used : List Token} {value : α} :
    reading used value -> forall rest, step (used ++ rest) = .ok (value, rest)

/-- Tokens before which no operand of the same sum follows. -/
def EndsSum (rest : List Token) : Prop :=
  ∀ token ∈ rest.head?, token.kind ≠ .plus

/-- Tokens before which a formula is over. -/
def EndsFormula (rest : List Token) : Prop :=
  ∀ token ∈ rest.head?, token.kind ≠ .plus ∧ token.kind.comparison? = none

theorem EndsFormula.endsSum
    {rest : List Token}
    (ends : EndsFormula rest) :
    EndsSum rest :=
  fun token present => (ends token present).1

theorem endsFormula_nil : EndsFormula [] := by
  intro token present
  cases present

theorem endsFormula_rightParen
    {closing : Token}
    (isClosing : closing.kind = .rightParen)
    (rest : List Token) :
    EndsFormula (closing :: rest) := by
  intro token present
  cases present
  rw [isClosing]
  exact ⟨by simp, rfl⟩

section

variable {operand : Step Expr} {reading : Reading Expr}

/-- An operand is a sum by itself. -/
theorem IsSum.of_operand
    {used : List Token}
    {value : Expr}
    (isValue : reading used value) :
    IsSum reading used value := by
  have isSum := IsSum.sum isValue .none
  rwa [List.append_nil] at isSum

theorem IsSum.ne_nil
    (reads : Reads operand reading)
    {used : List Token}
    {value : Expr}
    (isSum : IsSum reading used value) :
    used ≠ [] := by
  cases isSum with
  | sum isFirst _ => simp [reads.nonempty isFirst]

theorem IsComparison.ne_nil
    {used : List Token}
    {value : Expr}
    (isComparison : IsComparison reading used value)
    (reads : Reads operand reading) :
    used ≠ [] := by
  cases isComparison with
  | sum isSum => exact isSum.ne_nil reads
  | compare _ _ _ => simp

theorem moreOperands_sound
    (reads : Reads operand reading)
    {count : Nat}
    {tokens rest : List Token}
    {values : List Expr}
    (found : moreOperands operand count tokens = .ok (values, rest)) :
    ∃ used, tokens = used ++ rest ∧ IsMore reading used values := by
  induction count generalizing tokens values with
  | zero =>
      cases found
      exact ⟨[], rfl, .none⟩
  | succ count inductionHypothesis =>
      cases tokens with
      | nil =>
          cases found
          exact ⟨[], rfl, .none⟩
      | cons token tokens =>
          rw [moreOperands] at found
          split at found
          · rename_i isPlus
            obtain ⟨⟨value, middle⟩, valueFound, found⟩ :=
              Outcome.bind_eq_ok_iff.mp found
            obtain ⟨⟨others, _⟩, othersFound, found⟩ :=
              Outcome.bind_eq_ok_iff.mp found
            cases found
            obtain ⟨used, rfl, isValue⟩ := reads.sound valueFound
            obtain ⟨usedOthers, rfl, areOthers⟩ :=
              inductionHypothesis othersFound
            exact ⟨token :: used ++ usedOthers, by simp,
              .operand isPlus isValue areOthers⟩
          · cases found
            exact ⟨[], rfl, .none⟩

theorem moreOperands_complete
    (reads : Reads operand reading)
    {used rest : List Token}
    {values : List Expr}
    (more : IsMore reading used values)
    (ends : EndsSum rest)
    {count : Nat}
    (enough : used.length ≤ count) :
    moreOperands operand count (used ++ rest) = .ok (values, rest) := by
  induction more generalizing count with
  | none =>
      cases count with
      | zero => rfl
      | succ count =>
          cases rest with
          | nil => rfl
          | cons token rest =>
              rw [List.nil_append, moreOperands, if_neg (ends token rfl)]
  | @operand plus used others value values isPlus isValue _
      inductionHypothesis =>
      obtain ⟨count, rfl⟩ : ∃ smaller, count = smaller + 1 :=
        Nat.exists_eq_succ_of_ne_zero (by
          simp only [List.cons_append, List.length_cons] at enough
          omega)
      have othersEnough : others.length ≤ count := by
        simp only [List.cons_append, List.length_cons,
          List.length_append] at enough
        omega
      rw [List.cons_append, List.cons_append, List.append_assoc, moreOperands,
        if_pos isPlus, reads.complete isValue]
      simp only [Outcome.ok_bind, inductionHypothesis othersEnough]
      rfl

theorem sum_sound
    (reads : Reads operand reading)
    {tokens rest : List Token}
    {value : Expr}
    (found : sum operand tokens = .ok (value, rest)) :
    ∃ used, tokens = used ++ rest ∧ IsSum reading used value := by
  rw [sum] at found
  obtain ⟨⟨first, middle⟩, firstFound, found⟩ :=
    Outcome.bind_eq_ok_iff.mp found
  obtain ⟨⟨others, _⟩, othersFound, found⟩ := Outcome.bind_eq_ok_iff.mp found
  cases found
  obtain ⟨used, rfl, isFirst⟩ := reads.sound firstFound
  obtain ⟨usedOthers, rfl, areOthers⟩ := moreOperands_sound reads othersFound
  exact ⟨used ++ usedOthers, by simp, .sum isFirst areOthers⟩

theorem sum_complete
    (reads : Reads operand reading)
    {used rest : List Token}
    {value : Expr}
    (isSum : IsSum reading used value)
    (ends : EndsSum rest) :
    sum operand (used ++ rest) = .ok (value, rest) := by
  cases isSum with
  | @sum used others first values isFirst areOthers =>
      have enough : others.length ≤ (others ++ rest).length := by
        rw [List.length_append]
        omega
      rw [sum, List.append_assoc, reads.complete isFirst]
      simp only [Outcome.ok_bind,
        moreOperands_complete reads areOthers ends enough]
      rfl

theorem comparison_sound
    (reads : Reads operand reading)
    {tokens rest : List Token}
    {value : Expr}
    (found : comparison operand tokens = .ok (value, rest)) :
    ∃ used, tokens = used ++ rest ∧ IsComparison reading used value := by
  rw [comparison] at found
  obtain ⟨⟨left, middle⟩, leftFound, continued⟩ :=
    Outcome.bind_eq_ok_iff.mp found
  obtain ⟨used, rfl, isLeft⟩ := sum_sound reads leftFound
  dsimp only at continued
  split at continued
  · cases continued
    exact ⟨used, rfl, .sum isLeft⟩
  · rename_i token others
    split at continued
    · cases continued
      exact ⟨used, rfl, .sum isLeft⟩
    · rename_i operator isOperator
      obtain ⟨⟨right, _⟩, rightFound, returned⟩ :=
        Outcome.bind_eq_ok_iff.mp continued
      cases returned
      obtain ⟨usedRight, rfl, isRight⟩ := sum_sound reads rightFound
      exact ⟨used ++ token :: usedRight, by simp,
        .compare isLeft isOperator isRight⟩

/-- No comparison operator is a plus sign. -/
theorem endsSum_of_comparison?
    {token : Token}
    {operator : Comparison}
    (isOperator : token.kind.comparison? = some operator)
    (rest : List Token) :
    EndsSum (token :: rest) := by
  intro first present isPlus
  cases present
  rw [isPlus] at isOperator
  cases isOperator

theorem comparison_complete
    (reads : Reads operand reading)
    {used rest : List Token}
    {value : Expr}
    (isComparison : IsComparison reading used value)
    (ends : EndsFormula rest) :
    comparison operand (used ++ rest) = .ok (value, rest) := by
  cases isComparison with
  | sum isSum =>
      rw [comparison, sum_complete reads isSum ends.endsSum, Outcome.ok_bind]
      cases rest with
      | nil => rfl
      | cons token rest =>
          simp only [(ends token rfl).2]
          rfl
  | compare isLeft isOperator isRight =>
      rw [comparison, List.append_assoc, List.cons_append,
        sum_complete reads isLeft (endsSum_of_comparison? isOperator _),
        Outcome.ok_bind]
      simp only [isOperator, sum_complete reads isRight ends.endsSum,
        Outcome.ok_bind]
      rfl

/-- A formula that uses up all tokens. -/
theorem complete_eq_ok_iff
    (reads : Reads operand reading)
    {tokens : List Token}
    {value : Expr} :
    complete operand tokens = .ok value ↔
      IsComparison reading tokens value := by
  constructor
  · intro found
    unfold complete at found
    split at found
    · cases found
    · obtain ⟨⟨formula, rest⟩, formulaFound, continued⟩ :=
        Outcome.bind_eq_ok_iff.mp found
      obtain ⟨used, rfl, isFormula⟩ := comparison_sound reads formulaFound
      cases rest with
      | nil =>
          cases continued
          rwa [List.append_nil]
      | cons token rest => cases continued
  · intro isFormula
    have hasTokens : ¬tokens.isEmpty := by
      intro isEmpty
      rw [List.isEmpty_iff] at isEmpty
      exact isFormula.ne_nil reads isEmpty
    have found := comparison_complete reads isFormula endsFormula_nil
    rw [List.append_nil] at found
    rw [complete, if_neg hasTokens, found]
    rfl

theorem group_sound
    (reads : Reads operand reading)
    {opening : Token}
    {tokens rest : List Token}
    {value : Expr}
    (isOpening : opening.kind = .leftParen)
    (found : group operand opening.start tokens = .ok (value, rest)) :
    ∃ used, opening :: tokens = used ++ rest ∧
      IsGroup reading used value := by
  rw [group] at found
  obtain ⟨⟨formula, middle⟩, formulaFound, continued⟩ :=
    Outcome.bind_eq_ok_iff.mp found
  obtain ⟨inside, rfl, isFormula⟩ := comparison_sound reads formulaFound
  cases middle with
  | nil => cases continued
  | cons closing after =>
      dsimp only at continued
      split at continued
      · rename_i isClosing
        cases continued
        exact ⟨opening :: inside ++ [closing], by simp,
          .group isOpening isFormula isClosing⟩
      · cases continued

theorem group_complete
    (reads : Reads operand reading)
    {inside rest : List Token}
    {closing : Token}
    {value : Expr}
    (isFormula : IsComparison reading inside value)
    (isClosing : closing.kind = .rightParen)
    (opening : Nat) :
    group operand opening (inside ++ closing :: rest) = .ok (value, rest) := by
  rw [group, comparison_complete reads isFormula
    (endsFormula_rightParen isClosing rest), Outcome.ok_bind]
  simp only [if_pos isClosing]
  rfl

end

/-- A call has at least three arguments, between parentheses. -/
theorem callArguments_eq_ok_iff
    {tokens rest condition whenTrue otherwise : List Token} :
    callArguments tokens = .ok ((condition, whenTrue, otherwise), rest) ↔
      ∃ opening inside others, tokens = opening :: inside ∧
        opening.kind = .leftParen ∧
        Split 0 inside (condition :: whenTrue :: otherwise :: others) rest := by
  constructor
  · intro found
    cases tokens with
    | nil => cases found
    | cons opening inside =>
        rw [callArguments] at found
        split at found
        · rename_i isOpening
          split at found
          · cases found
          · rename_i others after segmentsFound
            cases found
            obtain ⟨⟨segments, _⟩, segmentsFound, trimmed⟩ :=
              Option.map_eq_some_iff.mp segmentsFound
            dsimp only at trimmed
            split at trimmed
            · cases trimmed
            · cases trimmed
              exact ⟨opening, inside, others, rfl, isOpening,
                segments?_eq_some_iff.mp segmentsFound⟩
          · cases found
        · cases found
  · rintro ⟨opening, inside, others, rfl, isOpening, split⟩
    rw [callArguments, if_pos isOpening, arguments?,
      segments?_eq_some_iff.mpr split]
    simp

/-- The three ways to read one operand. -/
theorem primary_eq_ok_iff
    {inner : Option (Step Expr)}
    {token : Token}
    {tokens rest : List Token}
    {value : Expr} :
    primary inner (token :: tokens) = .ok (value, rest) ↔
      (token.kind.atom? = some value ∧ tokens = rest) ∨
      (token.kind = .leftParen ∧ ∃ operand, inner = some operand ∧
        group operand token.start tokens = .ok (value, rest)) ∨
      (token.kind = .word ['i', 'f'] ∧ ∃ operand condition whenTrue otherwise,
        inner = some operand ∧
        callArguments tokens = .ok ((condition, whenTrue, otherwise), rest) ∧
        .choose (fragment operand condition) (fragment operand whenTrue)
          (fragment operand otherwise) = value) := by
  rw [primary.eq_def]
  dsimp only
  cases kind : token.kind with
  | text | number | field | now => simp [Token.Kind.atom?]
  | leftParen => cases inner <;> simp [Token.Kind.atom?]
  | word name =>
      by_cases isCall : name = ['i', 'f']
      · cases inner with
        | none => simp [isCall, Token.Kind.atom?, Outcome.bind_eq_ok_iff]
        | some operand => simp [isCall, Token.Kind.atom?, Outcome.bind_eq_ok_iff]
      · simp [isCall, Token.Kind.atom?]
  | reference | rightParen | comma | plus | equals | atMost | atLeast |
    stray => simp [Token.Kind.atom?]

theorem reads_primary_none : Reads (primary none) IsAtom where
  nonempty isAtom := by
    cases isAtom
    simp
  sound {tokens rest value} found := by
    cases tokens with
    | nil => cases found
    | cons token tokens =>
        obtain ⟨isAtom, rfl⟩ | ⟨_, _, absent, _⟩ | ⟨_, _, _, _, _, absent, _⟩ :=
          primary_eq_ok_iff.mp found
        · exact ⟨[token], rfl, .token isAtom⟩
        · cases absent
        · cases absent
  complete isAtom rest := by
    cases isAtom with
    | token isAtom => exact primary_eq_ok_iff.mpr (.inl ⟨isAtom, rfl⟩)

theorem reads_primary_some
    {operand : Step Expr}
    {reading : Reading Expr}
    (reads : Reads operand reading) :
    Reads (primary (some operand)) (IsPrimary operand reading) where
  nonempty isPrimary := by
    obtain isAtom | isGroup | isCall := isPrimary
    · cases isAtom
      simp
    · cases isGroup
      simp
    · cases isCall
      simp
  sound {tokens rest value} found := by
    cases tokens with
    | nil => cases found
    | cons token tokens =>
        obtain ⟨isAtom, rfl⟩ | ⟨isOpening, _, ⟨⟩, groupFound⟩ |
          ⟨isName, _, _, _, _, ⟨⟩, argumentsFound, rfl⟩ :=
          primary_eq_ok_iff.mp found
        · exact ⟨[token], rfl, .atom (.token isAtom)⟩
        · obtain ⟨used, same, isGroup⟩ := group_sound reads isOpening groupFound
          exact ⟨used, same, .group isGroup⟩
        · obtain ⟨opening, _, others, rfl, isOpening, split⟩ :=
            callArguments_eq_ok_iff.mp argumentsFound
          obtain ⟨inside, rfl, insideSplit⟩ := split.exists_call
          exact ⟨token :: opening :: inside, by simp,
            .call (.call isName isOpening insideSplit)⟩
  complete isPrimary rest := by
    obtain isAtom | isGroup | isCall := isPrimary
    · cases isAtom with
      | token isAtom => exact primary_eq_ok_iff.mpr (.inl ⟨isAtom, rfl⟩)
    · cases isGroup with
      | group isOpening isFormula isClosing =>
          simp only [List.cons_append, List.append_assoc, List.nil_append]
          exact primary_eq_ok_iff.mpr (.inr (.inl ⟨isOpening, operand, rfl,
            group_complete reads isFormula isClosing _⟩))
    · cases isCall with
      | call isName isOpening split =>
          have argumentsFound := callArguments_eq_ok_iff.mpr
            ⟨_, _, _, rfl, isOpening, split.append rest⟩
          exact primary_eq_ok_iff.mpr (.inr (.inr
            ⟨isName, operand, _, _, _, rfl, argumentsFound, rfl⟩))

/-- One operand is read from the front of a list exactly when a run that the
relation allows stands there. -/
theorem reads_operand (levels : Nat) :
    Reads (operand levels) (IsOperand levels) := by
  induction levels with
  | zero => exact reads_primary_none
  | succ levels inductionHypothesis =>
      exact reads_primary_some inductionHypothesis

/-- A token whose kind is an operand by itself is read at every level. -/
theorem isOperand_of_atom?
    {token : Token}
    {value : Expr}
    (isAtom : token.kind.atom? = some value)
    (levels : Nat) :
    IsOperand levels [token] value := by
  cases levels with
  | zero => exact .token isAtom
  | succ levels => exact .atom (.token isAtom)

/-! ## Fragments -/

/-- A formula that is read is the value of its tokens. -/
theorem IsComparison.fragment_eq
    {levels : Nat}
    {tokens : List Token}
    {value : Expr}
    (isFormula : IsFormula levels tokens value) :
    fragment (operand levels) tokens = value := by
  rw [fragment, (complete_eq_ok_iff (reads_operand levels)).mpr isFormula]

/-- The tokens of a fragment are either read as a formula or kept with the
cause of the failure. -/
theorem fragment_cases (levels : Nat) (tokens : List Token) :
    IsFormula levels tokens (fragment (operand levels) tokens) ∨
      ∃ cause, fragment (operand levels) tokens =
        .invalid (Token.source tokens) cause := by
  unfold fragment
  cases found : complete (operand levels) tokens with
  | ok value =>
      exact .inl ((complete_eq_ok_iff (reads_operand levels)).mp found)
  | error cause => exact .inr ⟨cause, rfl⟩

/-! ## Balance -/

theorem isArgument_of_atom?
    {token : Token}
    {value : Expr}
    (isAtom : token.kind.atom? = some value) :
    IsArgument (kinds [token]) := by
  apply IsArgument.single
  cases kind : token.kind <;> simp_all [Token.Kind.atom?, Token.Kind.levelAfter?]

/-- No comparison operator changes the level. -/
theorem levelAfter?_of_comparison?
    {token : Token}
    {operator : Comparison}
    (isOperator : token.kind.comparison? = some operator) :
    token.kind.levelAfter? 0 = some 0 := by
  cases kind : token.kind <;>
    simp_all [Token.Kind.comparison?, Token.Kind.levelAfter?]

section

variable {reading : Reading Expr}

theorem IsMore.isArgument
    (balanced : forall {used value}, reading used value -> IsArgument (kinds used))
    {used : List Token}
    {values : List Expr}
    (areMore : IsMore reading used values) :
    IsArgument (kinds used) := by
  induction areMore with
  | none => exact .nil
  | operand isPlus isValue _ inductionHypothesis =>
      rw [List.cons_append, kinds_cons, kinds_append, isPlus]
      exact IsArgument.nil.append_cons rfl
        ((balanced isValue).append inductionHypothesis)

theorem IsSum.isArgument
    (balanced : forall {used value}, reading used value -> IsArgument (kinds used))
    {used : List Token}
    {value : Expr}
    (isSum : IsSum reading used value) :
    IsArgument (kinds used) := by
  cases isSum with
  | sum isFirst areOthers =>
      rw [kinds_append]
      exact (balanced isFirst).append (areOthers.isArgument balanced)

theorem IsComparison.isArgument
    (balanced : forall {used value}, reading used value -> IsArgument (kinds used))
    {used : List Token}
    {value : Expr}
    (isComparison : IsComparison reading used value) :
    IsArgument (kinds used) := by
  cases isComparison with
  | sum isSum => exact isSum.isArgument balanced
  | @compare token _ _ _ _ _ isLeft isOperator isRight =>
      rw [kinds_append, kinds_cons]
      exact (isLeft.isArgument balanced).append_cons
        (levelAfter?_of_comparison? isOperator) (isRight.isArgument balanced)

theorem IsCall.isArgument
    {operand : Step Expr}
    {used : List Token}
    {value : Expr}
    (isCall : IsCall operand used value) :
    IsArgument (kinds used) := by
  cases isCall with
  | call isName isOpening split =>
      rw [kinds_cons, kinds_cons, isName, isOpening]
      exact split.levelThrough?_eq

end

/-- What is read as an operand closes exactly the parentheses it opens. -/
theorem IsOperand.isArgument
    {levels : Nat}
    {used : List Token}
    {value : Expr}
    (isOperand : IsOperand levels used value) :
    IsArgument (kinds used) := by
  induction levels generalizing used value with
  | zero =>
      cases isOperand with
      | token isAtom => exact isArgument_of_atom? isAtom
  | succ levels inductionHypothesis =>
      obtain isAtom | isGroup | isCall := isOperand
      · cases isAtom with
        | token isAtom => exact isArgument_of_atom? isAtom
      · cases isGroup with
        | group isOpening isFormula isClosing =>
            have inside := isFormula.isArgument inductionHypothesis
            rw [kinds_append, kinds_cons, kinds_cons, isOpening, isClosing]
            exact .parenthesized (inside.levelThrough?_eq 1)
      · exact isCall.isArgument

/-! ## Values -/

section

variable {reading : Reading Expr}

/-- Operands that are joined make no malformed piece. -/
theorem isInvalid_sum (first second : Expr) (others : List Expr) :
    (first.sum (second :: others)).isInvalid = false := by
  obtain ⟨_, _, added⟩ | ⟨_, concatenated⟩ :=
    Expr.sum_cons_cases first second others
  · rw [added]
    rfl
  · rw [concatenated]
    rfl

theorem IsComparison.isInvalid_eq_false
    (wellFormed : forall {used value}, reading used value ->
      value.isInvalid = false)
    {used : List Token}
    {value : Expr}
    (isComparison : IsComparison reading used value) :
    value.isInvalid = false := by
  cases isComparison with
  | sum isSum =>
      cases isSum with
      | sum isFirst areOthers =>
          cases areOthers with
          | none => exact wellFormed isFirst
          | operand _ _ _ => exact isInvalid_sum _ _ _
  | compare _ _ _ => rfl

theorem IsAtom.isInvalid_eq_false
    {used : List Token}
    {value : Expr}
    (isAtom : IsAtom used value) :
    value.isInvalid = false := by
  cases isAtom with
  | @token token _ isAtom =>
      unfold Token.Kind.atom? at isAtom
      split at isAtom <;> cases isAtom <;> rfl

end

theorem IsOperand.isInvalid_eq_false
    {levels : Nat}
    {used : List Token}
    {value : Expr}
    (isOperand : IsOperand levels used value) :
    value.isInvalid = false := by
  induction levels generalizing used value with
  | zero => exact IsAtom.isInvalid_eq_false isOperand
  | succ levels inductionHypothesis =>
      obtain isAtom | isGroup | isCall := isOperand
      · exact isAtom.isInvalid_eq_false
      · cases isGroup with
        | group _ isFormula _ =>
            exact isFormula.isInvalid_eq_false inductionHypothesis
      · cases isCall
        rfl

/-- An invalid fragment keeps the source of its tokens. -/
theorem source_of_fragment_eq_invalid
    {levels : Nat}
    {tokens : List Token}
    {source : Text}
    {cause : Error}
    (isInvalid : fragment (operand levels) tokens = .invalid source cause) :
    source = Token.source tokens := by
  obtain isFormula | ⟨other, same⟩ := fragment_cases levels tokens
  · have wellFormed :=
      isFormula.isInvalid_eq_false IsOperand.isInvalid_eq_false
    rw [isInvalid] at wellFormed
    cases wellFormed
  · rw [isInvalid] at same
    cases same
    rfl

/-- A fragment is well formed exactly when its tokens are read as a formula. -/
theorem isInvalid_fragment_eq_false_iff
    {levels : Nat}
    {tokens : List Token} :
    (fragment (operand levels) tokens).isInvalid = false ↔
      ∃ value, IsFormula levels tokens value := by
  constructor
  · intro wellFormed
    obtain isFormula | ⟨cause, isInvalid⟩ := fragment_cases levels tokens
    · exact ⟨_, isFormula⟩
    · rw [isInvalid] at wellFormed
      cases wellFormed
  · rintro ⟨value, isFormula⟩
    rw [isFormula.fragment_eq]
    exact isFormula.isInvalid_eq_false IsOperand.isInvalid_eq_false

end Parser

/-! ## Formulas of texts -/

/-- A text in tokens is parsed as one fragment. -/
theorem parse_eq_fragment
    {body : Text}
    {tokens : List Token}
    (tokenized : tokenize body = .ok tokens) :
    parse body =
      Parser.fragment (Parser.operand nestingLimit) tokens := by
  rw [parse, parseWithin, tokenized]

/-- A text without tokens is malformed as a whole. -/
theorem parse_eq_invalid
    {body : Text}
    {cause : Error}
    (failed : tokenize body = .error cause) :
    parse body = .invalid body.trim cause := by
  rw [parse, parseWithin, failed]

end Formula
end CellPreview
