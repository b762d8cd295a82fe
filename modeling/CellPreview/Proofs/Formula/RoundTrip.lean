import CellPreview.Proofs.Formula.Reparsing

/-!
# Printing what was parsed

What a text is parsed to is printable and not nested too deep, unless a part of
it is malformed. This is shown for what is read from a run of tokens, by
induction on the levels of the reading, and with the fact that every token is
spelled as its kind says.
-/

namespace CellPreview
namespace Formula

open CellPreview.Formula.Parser

/-- Formulas that have no malformed part. -/
def Expr.IsIntact (formula : Expr) : Prop :=
  ∀ source cause, ¬formula.Contains (.invalid source cause)

theorem Expr.IsIntact.child
    {formula child : Expr}
    (isIntact : formula.IsIntact)
    (isChild : child ∈ formula.children) :
    child.IsIntact :=
  fun source cause contains => isIntact source cause (.child isChild contains)

theorem Expr.isIntact_of_children
    {formula : Expr}
    (isValid : formula.isInvalid = false)
    (areIntact : ∀ child ∈ formula.children, child.IsIntact) :
    formula.IsIntact := by
  intro source cause contains
  obtain rfl | ⟨child, isChild, inside⟩ := contains_iff.mp contains
  · cases isValid
  · exact areIntact child isChild source cause inside

/-- What can be printed has no malformed part. -/
theorem Expr.Printable.isIntact
    {formula : Expr}
    (printable : formula.Printable) :
    formula.IsIntact :=
  fun source cause contains => printable (.invalid source cause) contains

/-- The operands of an intact sum are intact. -/
theorem Expr.IsIntact.operand
    {first operand : Expr}
    {others : List Expr}
    (isIntact : (first.sum others).IsIntact)
    (present : operand ∈ first :: others) :
    operand.IsIntact := by
  cases others with
  | nil =>
      rw [List.mem_singleton] at present
      rwa [present]
  | cons second others =>
      apply isIntact.child
      rwa [children_sum]

/-- What is read from spelled tokens is printable within some levels, as an
operand, unless it is malformed. -/
def PrintsOperands (levels : Nat) (reading : Reading Expr) : Prop :=
  ∀ used value, reading used value -> AllSpelled used -> value.IsIntact ->
    value.Printable ∧
      depth (parenthesized value.isJoined value.spelling) ≤ levels

section

variable {levels : Nat} {reading : Reading Expr}

theorem printable_more
    (prints : PrintsOperands levels reading)
    {used : List Token}
    {values : List Expr}
    (areMore : IsMore reading used values)
    (spelled : AllSpelled used)
    (areIntact : ∀ value ∈ values, value.IsIntact) :
    (∀ value ∈ values, value.Printable) ∧
      depth (Expr.moreSpelling values) ≤ levels := by
  induction areMore with
  | none => simp [Expr.moreSpelling]
  | @operand plus used others value values _ isValue _ inductionHypothesis =>
      obtain ⟨⟨_, usedSpelled⟩, othersSpelled⟩ :=
        (allSpelled_append.mp spelled).imp_left allSpelled_cons.mp
      obtain ⟨printable, within⟩ := prints used value isValue usedSpelled
        (areIntact value List.mem_cons_self)
      obtain ⟨othersPrintable, othersWithin⟩ := inductionHypothesis
        othersSpelled fun other present =>
          areIntact other (List.mem_cons_of_mem _ present)
      refine ⟨List.forall_mem_cons.mpr ⟨printable, othersPrintable⟩, ?_⟩
      rw [Expr.moreSpelling, List.cons_append, depth_cons (by simp) (by simp),
        (isArgument_parenthesized _ value).depth_append]
      exact Nat.max_le.mpr ⟨within, othersWithin⟩

/-- Printable operands make a printable sum. -/
theorem printable_sum
    {first : Expr}
    {others : List Expr}
    (operands : ∀ operand ∈ first :: others, operand.Printable) :
    (first.sum others).Printable := by
  cases others with
  | nil => exact operands first List.mem_cons_self
  | cons second others =>
      rw [Expr.printable_iff, Expr.children_sum]
      refine ⟨?_, operands⟩
      obtain ⟨rfl, areIntegers, added⟩ | ⟨notIntegers, concatenated⟩ :=
        Expr.sum_cons_cases first second others
      · rw [added]
        exact areIntegers
      · rw [concatenated]
        exact ⟨by simp, notIntegers⟩

/-- As an operand, no formula is spelled with fewer levels than as a side of a
comparison. -/
theorem depth_side_le_operand (formula : Expr) :
    depth (parenthesized formula.isComparison formula.spelling) ≤
      depth (parenthesized formula.isJoined formula.spelling) := by
  cases isComparison : formula.isComparison with
  | false => exact depth_parenthesized_le
  | true =>
      have isJoined : formula.isJoined := by
        cases formula with
        | compare => rfl
        | _ => cases isComparison
      rw [isJoined]

theorem printable_of_isSum
    (prints : PrintsOperands levels reading)
    {used : List Token}
    {value : Expr}
    (isSum : IsSum reading used value)
    (spelled : AllSpelled used)
    (isIntact : value.IsIntact) :
    value.Printable ∧
      depth (parenthesized value.isComparison value.spelling) ≤ levels := by
  cases isSum with
  | @sum used others first values isFirst areOthers =>
      obtain ⟨usedSpelled, othersSpelled⟩ := allSpelled_append.mp spelled
      obtain ⟨printable, within⟩ := prints used first isFirst usedSpelled
        (isIntact.operand List.mem_cons_self)
      obtain ⟨othersPrintable, othersWithin⟩ := printable_more prints areOthers
        othersSpelled fun value present =>
          isIntact.operand (List.mem_cons_of_mem _ present)
      refine ⟨printable_sum
        (List.forall_mem_cons.mpr ⟨printable, othersPrintable⟩), ?_⟩
      -- a single operand is a side of a comparison as it is, and has no more
      -- parentheses there
      cases values with
      | nil => exact Nat.le_trans (depth_side_le_operand first) within
      | cons second values =>
          rw [isComparison_sum, spelling_sum, parenthesized,
            if_neg Bool.false_ne_true,
            (isArgument_parenthesized _ first).depth_append]
          exact Nat.max_le.mpr ⟨within, othersWithin⟩

theorem printable_of_isComparison
    (prints : PrintsOperands levels reading)
    {used : List Token}
    {value : Expr}
    (isComparison : IsComparison reading used value)
    (spelled : AllSpelled used)
    (isIntact : value.IsIntact) :
    value.Printable ∧ depth value.spelling ≤ levels := by
  cases isComparison with
  | sum isSum =>
      obtain ⟨printable, within⟩ :=
        printable_of_isSum prints isSum spelled isIntact
      exact ⟨printable, Nat.le_trans depth_parenthesized_le within⟩
  | @compare token operator before after left right isLeft isOperator
      isRight =>
      obtain ⟨beforeSpelled, afterSpelled⟩ := allSpelled_append.mp spelled
      obtain ⟨leftPrintable, leftWithin⟩ := printable_of_isSum prints isLeft
        beforeSpelled (isIntact.child (by simp [Expr.children]))
      obtain ⟨rightPrintable, rightWithin⟩ := printable_of_isSum prints isRight
        (allSpelled_cons.mp afterSpelled).2
        (isIntact.child (by simp [Expr.children]))
      constructor
      · rw [Expr.printable_iff]
        refine ⟨trivial, fun child isChild => ?_⟩
        rw [Expr.children, List.mem_cons, List.mem_singleton] at isChild
        obtain rfl | rfl := isChild
        · exact leftPrintable
        · exact rightPrintable
      · rw [Expr.spelling,
          (isArgument_parenthesized _ left).depth_append,
          operator.depth_kind_cons]
        exact Nat.max_le.mpr ⟨leftWithin, rightWithin⟩

end

/-- A literal or a reference is printable as its token is spelled. -/
theorem printable_of_isAtom
    {used : List Token}
    {value : Expr}
    (isAtom : IsAtom used value)
    (spelled : AllSpelled used) :
    value.Printable ∧
      depth (parenthesized value.isJoined value.spelling) = 0 := by
  cases isAtom with
  | @token token _ isAtom =>
      have tokenSpelled := spelled token (by simp)
      rw [Expr.printable_iff]
      cases kind : token.kind with
      | text content =>
          rw [kind] at isAtom tokenSpelled
          cases isAtom
          refine ⟨⟨?_, by simp [Expr.children]⟩, rfl⟩
          generalize token.lexeme = lexeme at tokenSpelled
          cases tokenSpelled with
          | text isQuote absent =>
              obtain rfl | rfl := isQuote
              · exact .inl absent
              · exact .inr absent
      | number numeral =>
          rw [kind] at isAtom tokenSpelled
          cases isAtom
          refine ⟨⟨?_, by simp [Expr.children]⟩, rfl⟩
          generalize token.lexeme = lexeme at tokenSpelled
          cases tokenSpelled with
          | number isNumeral => exact isNumeral
      | field | now =>
          rw [kind] at isAtom
          cases isAtom
          exact ⟨⟨trivial, by simp [Expr.children]⟩, rfl⟩
      | _ =>
          rw [kind] at isAtom
          cases isAtom

/-- What is read from the tokens of an argument is printable, unless it is
malformed. -/
theorem printable_fragment
    {levels : Nat}
    (prints : PrintsOperands levels (IsOperand levels))
    {tokens : List Token}
    (spelled : AllSpelled tokens)
    (isIntact : (fragment (operand levels) tokens).IsIntact) :
    (fragment (operand levels) tokens).Printable ∧
      depth (fragment (operand levels) tokens).spelling ≤ levels := by
  obtain isFormula | ⟨cause, isInvalid⟩ := fragment_cases levels tokens
  · exact printable_of_isComparison prints isFormula spelled isIntact
  · exfalso
    apply isIntact (Token.source tokens) cause
    rw [isInvalid]
    exact .self _

/-- Arguments that are printable on their own make a printable call, one level
further out. -/
theorem printable_of_isCall
    {levels : Nat}
    (prints : PrintsOperands levels (IsOperand levels))
    {used : List Token}
    {value : Expr}
    (isCall : IsCall (operand levels) used value)
    (spelled : AllSpelled used)
    (isIntact : value.IsIntact) :
    value.Printable ∧
      depth (parenthesized value.isJoined value.spelling) ≤ levels + 1 := by
  cases isCall with
  | @call name opening inside condition whenTrue otherwise others _ _ split =>
      have insideSpelled := (allSpelled_cons.mp (allSpelled_cons.mp spelled).2).2
      have argument (run : List Token)
          (isRun : run ∈ [condition, whenTrue, otherwise])
          (isIntact : (fragment (operand levels) run).IsIntact) :=
        printable_fragment prints (fun token present =>
          insideSpelled token (split.mem run
            (List.mem_append_left others isRun) token present)) isIntact
      obtain ⟨first, firstWithin⟩ := argument condition (by simp)
        (isIntact.child (by simp [Expr.children]))
      obtain ⟨second, secondWithin⟩ := argument whenTrue (by simp)
        (isIntact.child (by simp [Expr.children]))
      obtain ⟨third, thirdWithin⟩ := argument otherwise (by simp)
        (isIntact.child (by simp [Expr.children]))
      constructor
      · rw [Expr.printable_iff]
        exact ⟨trivial, by simp [Expr.children, first, second, third]⟩
      · show depth (Expr.choose _ _ _).spelling ≤ levels + 1
        rw [depth_choose]
        omega

/-- What is read as an operand is printable within the levels it was read with,
unless it is malformed. -/
theorem printsOperands_isOperand (levels : Nat) :
    PrintsOperands levels (IsOperand levels) := by
  induction levels with
  | zero =>
      intro used value isOperand spelled _
      obtain ⟨printable, within⟩ := printable_of_isAtom isOperand spelled
      exact ⟨printable, Nat.le_of_eq within⟩
  | succ levels inductionHypothesis =>
      intro used value isOperand spelled isIntact
      obtain isAtom | isGroup | isCall := isOperand
      · obtain ⟨printable, within⟩ := printable_of_isAtom isAtom spelled
        exact ⟨printable, by omega⟩
      · cases isGroup with
        | @group opening closing inside _ _ isFormula _ =>
            -- the parentheses leave no node behind, so the formula is printed
            -- with at most the one level that they took
            have insideSpelled :=
              (allSpelled_cons.mp (allSpelled_append.mp spelled).1).2
            obtain ⟨printable, within⟩ := printable_of_isComparison
              inductionHypothesis isFormula insideSpelled isIntact
            have deeper := @depth_parenthesized_le_succ value.isJoined value
            exact ⟨printable, by omega⟩
      · exact printable_of_isCall inductionHypothesis isCall spelled isIntact

/-- What a text is parsed to is printable within the limit, unless a part of
it is malformed. -/
theorem printable_parse
    {body : Text}
    (isIntact : (parse body).IsIntact) :
    (parse body).Printable ∧ nesting (parse body).print ≤ nestingLimit := by
  cases tokenized : tokenize body with
  | error cause =>
      exfalso
      apply isIntact body.trim cause
      rw [parse_eq_invalid tokenized]
      exact .self _
  | ok tokens =>
      have spelled : AllSpelled tokens :=
        (Lexer.scan_eq_ok_iff.mp tokenized).spelled
      rw [parse_eq_fragment tokenized] at isIntact ⊢
      obtain ⟨printable, within⟩ := printable_fragment
        (printsOperands_isOperand nestingLimit) spelled isIntact
      rw [nesting_print printable]
      exact ⟨printable, within⟩

/-- Parsing inverts printing on the printable formulas within the limit, and
these are all formulas without a malformed part that parsing has as its
values. -/
theorem parse_inverts_print :
    (∀ formula : Expr, formula.Printable ->
      nesting formula.print ≤ nestingLimit -> parse formula.print = formula) ∧
    (∀ body : Text, (parse body).IsIntact ->
      (parse body).Printable ∧ nesting (parse body).print ≤ nestingLimit) :=
  ⟨fun _ printable within => parse_print printable within,
    fun _ isIntact => printable_parse isIntact⟩

/-- A concatenation with a comparison as its second operand, and a text that is
parsed to it. -/
theorem parse_inverts_print_concatenation :
    let formula := Expr.concat
      [.number ['1'], .compare .equal (.text ['a']) (.text ['\''])]
    let body : Text := "((1)+('a'==\"'\"))"
    (formula.Printable ∧ nesting formula.print ≤ nestingLimit ∧
      parse formula.print = formula) ∧
    (parse body).IsIntact ∧ (parse body).Printable ∧
      nesting (parse body).print ≤ nestingLimit := by
  intro formula body
  have printable : formula.Printable := by
    have isDigit : ['1'].all Char.isDigit := rfl
    have isNumeral : IsNumeral ['1'] :=
      @IsNumeral.numeral [] ['1'] [] (.inl rfl) (by simp)
        (List.all_eq_true.mp isDigit) (.inl rfl)
    have texts (content : Text) (lacks : '\'' ∉ content ∨ '"' ∉ content) :
        (Expr.text content).Printable :=
      Expr.printable_iff.mpr ⟨lacks, by simp [Expr.children]⟩
    have first : (Expr.number ['1']).Printable :=
      Expr.printable_iff.mpr ⟨isNumeral, by simp [Expr.children]⟩
    have second : (Expr.compare .equal (.text ['a'])
        (.text ['\''])).Printable :=
      Expr.printable_iff.mpr ⟨trivial, by
        simp [Expr.children, texts ['a'] (by simp), texts ['\''] (by simp)]⟩
    refine Expr.printable_iff.mpr ⟨⟨by simp, ?_⟩, ?_⟩
    · rintro left right ⟨⟩
      rfl
    · simp [formula, Expr.children, first, second]
  have within : nesting formula.print ≤ nestingLimit := by
    rw [nesting_print printable]
    decide
  have tokenized : tokenize "((1)+('a'==\"'\"))" = .ok
      [⟨.leftParen, 0, [], ['(']⟩, ⟨.leftParen, 1, [], ['(']⟩,
        ⟨.number ['1'], 2, [], ['1']⟩, ⟨.rightParen, 3, [], [')']⟩,
        ⟨.plus, 4, [], ['+']⟩, ⟨.leftParen, 5, [], ['(']⟩,
        ⟨.text ['a'], 6, [], ['\'', 'a', '\'']⟩,
        ⟨.equals, 9, [], ['=', '=']⟩,
        ⟨.text ['\''], 11, [], ['"', '\'', '"']⟩,
        ⟨.rightParen, 14, [], [')']⟩, ⟨.rightParen, 15, [], [')']⟩] := by
    with_unfolding_all rfl
  have parsed : parse "((1)+('a'==\"'\"))" = .concat
      [.number ['1'], .compare .equal (.text ['a']) (.text ['\''])] := by
    rw [parse_eq_fragment tokenized]
    rfl
  have isIntact : (parse "((1)+('a'==\"'\"))").IsIntact := by
    rw [parsed]
    exact printable.isIntact
  exact ⟨⟨printable, within, parse_inverts_print.1 formula printable within⟩,
    isIntact, parse_inverts_print.2 body isIntact⟩

end Formula
end CellPreview
