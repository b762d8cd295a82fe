import CellPreview.Proofs.Formula.Derivation
import CellPreview.Proofs.Formula.Source
import CellPreview.Proofs.Formula.Unlimited

/-!
# The limit on nesting

The tokens of a derivation are read with as many levels as it nests outside of
the arguments of its calls, whatever these hold, and with fewer levels they are
too deep. So the limit is felt by each fragment on its own: what a text is
parsed to differs from what it is parsed to without a limit only in the
fragments that are themselves past the limit.
-/

namespace CellPreview
namespace Formula

open CellPreview.Formula.Parser

namespace Parser

/-- The outcome of reading what nests some levels. -/
def limited {α : Type} (levels nesting : Nat) (result : α) : Except Error α :=
  if nesting ≤ levels then .ok result else .error (.tooDeep nestingLimit)

section

variable {α β : Type} {value : α} {result : β} {levels nesting : Nat}

theorem limited_of_le (fits : nesting ≤ levels) :
    limited levels nesting value = .ok value :=
  if_pos fits

theorem limited_of_lt (tooDeep : levels < nesting) :
    limited levels nesting value = .error (.tooDeep nestingLimit) :=
  if_neg (Nat.not_le_of_lt tooDeep)

theorem limited_succ_succ :
    limited (levels + 1) (nesting + 1) value = limited levels nesting value := by
  rw [limited, limited]
  simp only [Nat.add_le_add_iff_right]

/-- Of two parts read one after the other, the deeper one decides. -/
theorem limited_bind
    {more : Nat}
    {next : α -> Except Error β}
    (same : next value = limited levels more result) :
    limited levels nesting value >>= next =
      limited levels (max nesting more) result := by
  obtain tooDeep | fits := Nat.lt_or_ge levels nesting
  · rw [limited_of_lt tooDeep, limited_of_lt (by omega)]
    rfl
  · rw [limited_of_le fits, Outcome.ok_bind, same, limited, limited]
    simp only [Nat.max_le, fits, true_and]

/-- What nests nothing changes no outcome. -/
theorem limited_bind_ok
    {next : α -> Except Error β}
    (same : next value = .ok result) :
    limited levels nesting value >>= next = limited levels nesting result := by
  rw [← limited_of_le (Nat.zero_le levels)] at same
  rw [limited_bind same, Nat.max_zero]

end

/-- A parenthesis is a level of its own. -/
theorem primary_of_leftParen
    {opening : Token}
    (isOpening : opening.kind = .leftParen)
    (inner : Option (Step Expr))
    (rest : List Token) :
    primary inner (opening :: rest) =
      match inner with
      | none => .error (.tooDeep nestingLimit)
      | some operand => group operand opening.start rest := by
  rw [primary.eq_def]
  cases inner <;> simp only [isOpening]

/-- A call is a level of its own, which is entered after its arguments are
found. -/
theorem primary_of_callArguments
    {name : Token}
    {rest after condition whenTrue otherwise : List Token}
    (isName : name.kind = .word ['i', 'f'])
    (found : callArguments rest = .ok ((condition, whenTrue, otherwise), after))
    (inner : Option (Step Expr)) :
    primary inner (name :: rest) =
      match inner with
      | none => .error (.tooDeep nestingLimit)
      | some operand => .ok (.choose (fragment operand condition)
          (fragment operand whenTrue) (fragment operand otherwise), after) := by
  rw [primary.eq_def]
  cases inner <;> simp only [isName, if_true, found, Outcome.ok_bind] <;> rfl

end Parser

/-! ## Fragments -/

theorem OperandTree.tokens_ne_nil (tree : OperandTree) : tree.tokens ≠ [] := by
  cases tree <;> simp [OperandTree.tokens, CallFrame.tokens]

theorem SumTree.tokens_ne_nil (tree : SumTree) : tree.tokens ≠ [] := by
  cases tree with
  | operands first others => simp [SumTree.tokens, first.tokens_ne_nil]

theorem FormulaTree.tokens_ne_nil (tree : FormulaTree) : tree.tokens ≠ [] := by
  cases tree with
  | sum sum => exact sum.tokens_ne_nil
  | compare left token operator isOperator right => simp [FormulaTree.tokens]

theorem FormulaTree.unlessTooDeep_of_le
    {limit outer : Nat}
    {tree : FormulaTree}
    (fits : outer + tree.nesting ≤ limit)
    (value : Expr) :
    tree.unlessTooDeep (some limit) outer value = value := by
  rw [unlessTooDeep, if_neg]
  simpa using fits

theorem FormulaTree.unlessTooDeep_of_lt
    {limit outer : Nat}
    {tree : FormulaTree}
    (tooDeep : limit < outer + tree.nesting)
    (value : Expr) :
    tree.unlessTooDeep (some limit) outer value =
      .invalid (Token.source tree.tokens) (.tooDeep nestingLimit) := by
  rw [unlessTooDeep, if_pos]
  simpa using tooDeep

/-- A fragment is lost when its formula is not read. -/
theorem fragment_eq_of_comparison
    {levels outer limit : Nat}
    {tree : FormulaTree}
    {value : Expr}
    (same : outer + levels = limit)
    (outcome : comparison (operand levels) (tree.tokens ++ []) =
      limited levels tree.nesting (value, [])) :
    fragment (operand levels) tree.tokens =
      tree.unlessTooDeep (some limit) outer value := by
  have hasTokens : ¬tree.tokens.isEmpty := by
    simpa using tree.tokens_ne_nil
  rw [List.append_nil] at outcome
  rw [fragment, complete, if_neg hasTokens, outcome]
  obtain tooDeep | fits := Nat.lt_or_ge levels tree.nesting
  · rw [limited_of_lt tooDeep, FormulaTree.unlessTooDeep_of_lt (by omega)]
    rfl
  · rw [limited_of_le fits, FormulaTree.unlessTooDeep_of_le (by omega)]
    rfl

/-! ## What is read within a limit -/

mutual

theorem FormulaTree.comparison_eq
    {levels outer limit : Nat}
    {rest : List Token}
    (same : outer + levels = limit)
    (ends : EndsFormula rest) :
    (tree : FormulaTree) ->
    comparison (operand levels) (tree.tokens ++ rest) =
      limited levels tree.nesting (tree.value (some limit) outer, rest)
  | .sum sum => by
      rw [comparison, FormulaTree.tokens, sum.sum_eq same ends.endsSum]
      apply limited_bind_ok
      cases rest with
      | nil => rfl
      | cons token rest =>
          simp only [(ends token rfl).2]
          rfl
  | .compare left token operator isOperator right => by
      rw [comparison, FormulaTree.tokens, List.append_assoc, List.cons_append,
        left.sum_eq same (endsSum_of_comparison? isOperator _)]
      apply limited_bind
      simp only [isOperator]
      rw [right.sum_eq same ends.endsSum]
      exact limited_bind_ok rfl

theorem SumTree.sum_eq
    {levels outer limit : Nat}
    {rest : List Token}
    (same : outer + levels = limit)
    (ends : EndsSum rest) :
    (tree : SumTree) ->
    sum (operand levels) (tree.tokens ++ rest) =
      limited levels tree.nesting (tree.value (some limit) outer, rest)
  | .operands first others => by
      rw [sum, SumTree.tokens, List.append_assoc, first.operand_eq same]
      apply limited_bind
      dsimp only
      rw [others.moreOperands_eq same ends _ (by simp)]
      exact limited_bind_ok rfl

theorem MoreTree.moreOperands_eq
    {levels outer limit : Nat}
    {rest : List Token}
    (same : outer + levels = limit)
    (ends : EndsSum rest) :
    (tree : MoreTree) -> (count : Nat) -> tree.tokens.length ≤ count ->
    moreOperands (operand levels) count (tree.tokens ++ rest) =
      limited levels tree.nesting (tree.values (some limit) outer, rest)
  | .none, count, enough =>
      moreOperands_complete (reads_operand levels) .none ends enough
  | .operand plus isPlus next others, count, enough => by
      simp only [MoreTree.tokens, List.cons_append, List.length_cons,
        List.length_append] at enough
      obtain ⟨count, rfl⟩ : ∃ smaller, count = smaller + 1 :=
        Nat.exists_eq_succ_of_ne_zero (by omega)
      rw [MoreTree.tokens, List.cons_append, List.cons_append,
        List.append_assoc, moreOperands, if_pos isPlus, next.operand_eq same]
      apply limited_bind
      dsimp only
      rw [others.moreOperands_eq same ends count (by omega)]
      exact limited_bind_ok rfl

theorem OperandTree.operand_eq
    {levels outer limit : Nat}
    {rest : List Token}
    (same : outer + levels = limit) :
    (tree : OperandTree) ->
    operand levels (tree.tokens ++ rest) =
      limited levels tree.nesting (tree.value (some limit) outer, rest)
  | .atom _ _ isAtom =>
      (reads_operand levels).complete (isOperand_of_atom? isAtom levels) rest
  | .group opening isOpening inside closing isClosing => by
      simp only [OperandTree.tokens, List.cons_append, List.append_assoc,
        List.nil_append]
      cases levels with
      | zero =>
          rw [operand, primary_of_leftParen isOpening]
          exact (limited_of_lt (Nat.succ_pos _)).symm
      | succ levels =>
          have sameInside : (outer + 1) + levels = limit := by omega
          rw [operand, primary_of_leftParen isOpening]
          dsimp only
          rw [group, inside.comparison_eq sameInside
            (endsFormula_rightParen isClosing rest), OperandTree.nesting,
            limited_succ_succ]
          exact limited_bind_ok (if_pos isClosing)
  | .call frame condition whenTrue otherwise => by
      have split := frame.split condition.isArgument whenTrue.isArgument
        otherwise.isArgument
      have found := callArguments_eq_ok_iff.mpr
        ⟨_, _, _, rfl, frame.isOpening, split.append rest⟩
      simp only [OperandTree.tokens, CallFrame.tokens, List.cons_append]
      -- a call needs one level, however deep its arguments are: each of them is
      -- a fragment, which may be lost while the call stays
      cases levels with
      | zero =>
          rw [operand, primary_of_callArguments frame.isName found]
          exact (limited_of_lt (Nat.succ_pos _)).symm
      | succ levels =>
          have sameInside : (outer + 1) + levels = limit := by omega
          have conditionEq := fragment_eq_of_comparison sameInside
            (condition.comparison_eq sameInside endsFormula_nil)
          have whenTrueEq := fragment_eq_of_comparison sameInside
            (whenTrue.comparison_eq sameInside endsFormula_nil)
          have otherwiseEq := fragment_eq_of_comparison sameInside
            (otherwise.comparison_eq sameInside endsFormula_nil)
          rw [operand, primary_of_callArguments frame.isName found]
          dsimp only
          rw [conditionEq, whenTrueEq, otherwiseEq]
          exact (limited_of_le (Nat.le_add_left 1 levels)).symm

end

/-- The tokens of a derivation are parsed to what it stands for under the
limit. -/
theorem FormulaTree.fragment_eq (tree : FormulaTree) (levels : Nat) :
    Parser.fragment (operand levels) tree.tokens =
      tree.fragment (some levels) 0 :=
  fragment_eq_of_comparison (Nat.zero_add levels)
    (tree.comparison_eq (Nat.zero_add levels) endsFormula_nil)

/-! ## What is within the limit -/

mutual

theorem FormulaTree.nesting_le_depth :
    (tree : FormulaTree) -> tree.nesting ≤ tree.depth
  | .sum sum => sum.nesting_le_depth
  | .compare left _ _ _ right => by
      have leftLe := left.nesting_le_depth
      have rightLe := right.nesting_le_depth
      simp only [FormulaTree.nesting, FormulaTree.depth]
      omega

theorem SumTree.nesting_le_depth :
    (tree : SumTree) -> tree.nesting ≤ tree.depth
  | .operands first others => by
      have firstLe := first.nesting_le_depth
      have othersLe := others.nesting_le_depth
      simp only [SumTree.nesting, SumTree.depth]
      omega

theorem MoreTree.nesting_le_depth :
    (tree : MoreTree) -> tree.nesting ≤ tree.depth
  | .none => Nat.le_refl 0
  | .operand _ _ next others => by
      have nextLe := next.nesting_le_depth
      have othersLe := others.nesting_le_depth
      simp only [MoreTree.nesting, MoreTree.depth]
      omega

theorem OperandTree.nesting_le_depth :
    (tree : OperandTree) -> tree.nesting ≤ tree.depth
  | .atom _ _ _ => Nat.le_refl 0
  | .group _ _ inside _ _ => Nat.succ_le_succ inside.nesting_le_depth
  | .call _ _ _ _ => Nat.le_add_left 1 _

end

section

variable {limit : Nat}

/-- A fragment with no level past the limit is not lost. -/
theorem FormulaTree.unlessTooDeep_eq
    {outer : Nat}
    {tree : FormulaTree}
    {value other : Expr}
    (within : outer + tree.depth ≤ limit)
    (same : value = other) :
    tree.unlessTooDeep (some limit) outer value =
      tree.unlessTooDeep none outer other := by
  have nestingLe := tree.nesting_le_depth
  rw [unlessTooDeep_of_le (by omega), same]
  rfl

mutual

theorem FormulaTree.value_eq :
    (tree : FormulaTree) -> (outer : Nat) -> outer + tree.depth ≤ limit ->
    tree.value (some limit) outer = tree.value none outer
  | .sum sum, outer, within => sum.value_eq outer within
  | .compare left _ _ _ right, outer, within => by
      rw [FormulaTree.depth] at within
      rw [FormulaTree.value, FormulaTree.value, left.value_eq outer (by omega),
        right.value_eq outer (by omega)]

theorem SumTree.value_eq :
    (tree : SumTree) -> (outer : Nat) -> outer + tree.depth ≤ limit ->
    tree.value (some limit) outer = tree.value none outer
  | .operands first others, outer, within => by
      rw [SumTree.depth] at within
      rw [SumTree.value, SumTree.value, first.value_eq outer (by omega),
        others.values_eq outer (by omega)]

theorem MoreTree.values_eq :
    (tree : MoreTree) -> (outer : Nat) -> outer + tree.depth ≤ limit ->
    tree.values (some limit) outer = tree.values none outer
  | .none, _, _ => rfl
  | .operand _ _ next others, outer, within => by
      rw [MoreTree.depth] at within
      rw [MoreTree.values, MoreTree.values, next.value_eq outer (by omega),
        others.values_eq outer (by omega)]

theorem OperandTree.value_eq :
    (tree : OperandTree) -> (outer : Nat) -> outer + tree.depth ≤ limit ->
    tree.value (some limit) outer = tree.value none outer
  | .atom _ _ _, _, _ => rfl
  | .group _ _ inside _ _, outer, within => by
      rw [OperandTree.depth] at within
      exact inside.value_eq (outer + 1) (by omega)
  | .call _ condition whenTrue otherwise, outer, within => by
      rw [OperandTree.depth] at within
      rw [OperandTree.value, OperandTree.value,
        FormulaTree.unlessTooDeep_eq (by omega)
          (condition.value_eq (outer + 1) (by omega)),
        FormulaTree.unlessTooDeep_eq (by omega)
          (whenTrue.value_eq (outer + 1) (by omega)),
        FormulaTree.unlessTooDeep_eq (by omega)
          (otherwise.value_eq (outer + 1) (by omega))]

end

/-- Nothing is lost of a derivation that keeps within the limit. -/
theorem FormulaTree.fragment_eq_none
    {tree : FormulaTree}
    (within : tree.depth ≤ limit) :
    tree.fragment (some limit) 0 = tree.fragment none 0 := by
  rw [← Nat.zero_add tree.depth] at within
  exact unlessTooDeep_eq within (tree.value_eq 0 within)

end

/-- Without a limit, the tokens of a derivation are parsed to all that it stands
for. -/
theorem FormulaTree.fragment_unlimited_eq (tree : FormulaTree) :
    Parser.fragment unlimited tree.tokens = tree.value none 0 := by
  -- enough levels for the tokens, so that the limit does not matter, and for
  -- the derivation, so that nothing of it is lost
  have within := Nat.le_max_left (Formula.depth (kinds tree.tokens)) tree.depth
  rw [fragment_unlimited within, tree.fragment_eq,
    fragment_eq_none (Nat.le_max_right _ _)]
  rfl

theorem parseUnlimited_eq_fragment
    {body : Text}
    {tokens : List Token}
    (tokenized : tokenize body = .ok tokens) :
    parseUnlimited body = Parser.fragment unlimited tokens := by
  rw [parseUnlimited, tokenized]

/-- Without a limit, a text is parsed to a formula without malformed parts
exactly when its tokens have a derivation. -/
theorem isIntact_parseUnlimited_iff (body : Text) :
    (parseUnlimited body).IsIntact ↔
      ∃ tree : FormulaTree, tokenize body = .ok tree.tokens := by
  constructor
  · intro isIntact
    cases tokenized : tokenize body with
    | error cause =>
        rw [parseUnlimited, tokenized] at isIntact
        exact absurd (.self _) (isIntact body.trim cause)
    | ok tokens =>
        rw [parseUnlimited_eq_fragment tokenized,
          fragment_unlimited (Nat.le_refl _)] at isIntact
        obtain ⟨tree, rfl⟩ :=
          exists_fragmentTree (derives_isOperand _) isIntact
        exact ⟨tree, rfl⟩
  · rintro ⟨tree, tokenized⟩
    rw [parseUnlimited_eq_fragment tokenized, tree.fragment_unlimited_eq]
    exact tree.isIntact_value 0

/-- A digit at an offset with pairs of parentheses around it. -/
def FormulaTree.grouped (offset : Nat) : Nat -> FormulaTree
  | 0 => .sum (.operands
      (.atom ⟨.number ['1'], offset, [], ['1']⟩ (.number ['1']) rfl) .none)
  | pairs + 1 => .sum (.operands
      (.group ⟨.leftParen, offset - (pairs + 1), [], ['(']⟩ rfl
        (grouped offset pairs)
        ⟨.rightParen, offset + (pairs + 1), [], [')']⟩ rfl) .none)

/-- The limit on nesting is local. The parser without a limit is the one that is
handed down to itself. A text that it parses to a formula without malformed
parts has a derivation, and with the limit the text is parsed to the same formula
but for the fragments that are themselves past the limit: the whole text, or
arguments of calls. -/
theorem nesting_limit_is_local (body : Text) :
    (∀ step, step = primary (some step) ↔ step = unlimited) ∧
    ((parseUnlimited body).IsIntact ↔
      ∃ tree : FormulaTree, tokenize body = .ok tree.tokens) ∧
    ∀ tree : FormulaTree, tokenize body = .ok tree.tokens ->
      parseUnlimited body = tree.value none 0 ∧
      parse body = tree.fragment (some nestingLimit) 0 ∧
      (tree.depth ≤ nestingLimit -> parse body = parseUnlimited body) ∧
      Token.source tree.tokens = body.trim ∧
      ∀ before left argument right after,
        tree.tokens = before ++ left :: argument ++ right :: after ->
        Token.source argument = (body.slice left.stop right.start).trim := by
  refine ⟨eq_primary_iff_eq_unlimited, isIntact_parseUnlimited_iff body, ?_⟩
  intro tree tokenized
  have without : parseUnlimited body = tree.value none 0 := by
    rw [parseUnlimited_eq_fragment tokenized, tree.fragment_unlimited_eq]
  have within : parse body = tree.fragment (some nestingLimit) 0 := by
    rw [parse_eq_fragment tokenized, tree.fragment_eq]
  refine ⟨without, within, ?_, source_eq_trim tokenized, ?_⟩
  · intro keeps
    rw [within, without, FormulaTree.fragment_eq_none keeps]
    rfl
  · intro before left argument right after same
    rw [same] at tokenized
    exact source_eq_trim_slice tokenized

set_option maxRecDepth 10000 in
/-- A call in which the condition alone has one pair of parentheses too
many. -/
theorem nesting_limit_is_local_condition :
    let digit : Expr := .number ['1']
    let condition : Text :=
      List.replicate 128 '(' ++ '1' :: List.replicate 128 ')'
    let body : Text := ['i', 'f', '('] ++ condition ++ [',', '1', ',', '1', ')']
    (parseUnlimited body).IsIntact ∧
    parseUnlimited body = .choose digit digit digit ∧
    parse body =
      .choose (.invalid condition (.tooDeep 128)) digit digit := by
  intro digit condition body
  let frame : CallFrame := {
    name := ⟨.word ['i', 'f'], 0, [], ['i', 'f']⟩
    opening := ⟨.leftParen, 2, [], ['(']⟩
    firstComma := ⟨.comma, 260, [], [',']⟩
    secondComma := ⟨.comma, 262, [], [',']⟩
    rest := [⟨.rightParen, 264, [], [')']⟩]
    ignored := []
    isName := rfl
    isOpening := rfl
    isFirstComma := rfl
    isSecondComma := rfl
    isRest := @Split.last 0 [] [] ⟨.rightParen, 264, [], [')']⟩ rfl rfl }
  let tree : FormulaTree := .sum (.operands (.call frame (.grouped 131 128)
    (.grouped 261 0) (.grouped 263 0)) .none)
  have tokenized : tokenize body = .ok tree.tokens := by
    decide +kernel
  obtain ⟨_, isIntact, derived⟩ := nesting_limit_is_local body
  obtain ⟨without, within, _⟩ := derived tree tokenized
  exact ⟨isIntact.mpr ⟨tree, tokenized⟩, without, within⟩

end Formula
end CellPreview
