import CellPreview.Proofs.Formula.Filling
import CellPreview.Proofs.Formula.Operands
import CellPreview.Proofs.Formula.Ordering
import CellPreview.Proofs.Numeric.Integer

/-!
# The meaning of the plus sign

Operands that are joined by plus signs are concatenated, each with the value and
the anomalies that it has by itself. The one exception is a sum of two integers,
which is added. Whether an operand is an integer is decided on its tree, and the
addition reads its value again; both come down to the same shape of tokens, and
to the same integer.
-/

namespace CellPreview
namespace Formula

open CellPreview.Formula.Parser Numeric

/-! ## Evaluation at another place -/

/-- An anomaly with a larger offset in its cause, if it has one. -/
def Anomaly.shift (amount : Nat) : Anomaly -> Anomaly
  | .malformed source cause => .malformed source (cause.shift amount)
  | other => other

/-- A value with larger offsets in its anomalies. -/
def Evaluation.shift (amount : Nat) (evaluation : Evaluation) : Evaluation :=
  ⟨evaluation.value, evaluation.anomalies.map (Anomaly.shift amount)⟩

/-- A truth value with larger offsets in its anomalies. -/
def Verdict.shift (amount : Nat) (verdict : Verdict) : Verdict :=
  ⟨verdict.holds, verdict.anomalies.map (Anomaly.shift amount)⟩

namespace Evaluation

@[simp] theorem shift_pure (amount : Nat) (value : Text) :
    (pure value).shift amount = pure value := rfl

theorem shift_append (amount : Nat) (first second : Evaluation) :
    (first.append second).shift amount =
      (first.shift amount).append (second.shift amount) := by
  simp [append, shift]

theorem shift_after
    (amount : Nat)
    (anomalies : List Anomaly)
    (evaluation : Evaluation) :
    (evaluation.after anomalies).shift amount =
      (evaluation.shift amount).after (anomalies.map (Anomaly.shift amount)) := by
  simp [after, shift]

/-- What addition finds wrong has no offset. -/
theorem shift_add (amount : Nat) (first second : Evaluation) :
    (first.add second).shift amount =
      (first.shift amount).add (second.shift amount) := by
  have overflow {anomaly : Anomaly}
      (isError : addIntegers first.value second.value = .error anomaly) :
      anomaly.shift amount = anomaly := by
    unfold addIntegers at isError
    split at isError
    · split at isError <;> cases isError
      rfl
    · cases isError
      rfl
  cases added : addIntegers first.value second.value with
  | ok total => simp [add, shift, added]
  | error anomaly => simp [add, shift, added, overflow added]

/-- What a comparison finds wrong has no offset. -/
theorem shift_compare
    (amount : Nat)
    (operator : Comparison)
    (first second : Evaluation) :
    (first.compare operator second).shift amount =
      (first.shift amount).compare operator (second.shift amount) := by
  have noOffset {anomaly : Anomaly}
      (isAnomaly : (operator.decide first.value second.value).2 = some anomaly) :
      anomaly.shift amount = anomaly := by
    rw [Comparison.eq_notNumeric_of_decide isAnomaly]
    rfl
  cases decided : operator.decide first.value second.value with
  | mk holds anomaly =>
      rw [decided] at noOffset
      cases anomaly with
      | none => simp [compare, shift, Verdict.shift, decided]
      | some anomaly =>
          simp [compare, shift, Verdict.shift, decided, noOffset rfl]

end Evaluation

namespace Expr

mutual

/-- A formula with larger offsets has its value, and its anomalies with larger
offsets. -/
theorem eval_shift (context : Context) (amount : Nat) :
    ∀ formula : Expr, (formula.shift amount).eval context =
      (formula.eval context).shift amount
  | .text _ | .number _ | .field | .now => rfl
  | .concat parts => evalAll_shiftAll context amount parts
  | .add left right => by
      rw [shift, eval, eval, eval_shift context amount left,
        eval_shift context amount right, Evaluation.shift_add]
  | .compare operator left right => by
      rw [shift, eval, eval, eval_shift context amount left,
        eval_shift context amount right, ← Evaluation.shift_compare]
      rfl
  | .choose condition whenTrue otherwise => by
      rw [shift, eval, eval, test_shift context amount condition,
        eval_shift context amount whenTrue,
        eval_shift context amount otherwise]
      cases holds : (condition.test context).holds <;>
        simp [Verdict.shift, holds, Evaluation.shift_after]
  | .invalid _ _ => rfl

/-- A condition with larger offsets holds as before. -/
theorem test_shift (context : Context) (amount : Nat) :
    ∀ formula : Expr, (formula.shift amount).test context =
      (formula.test context).shift amount
  | .compare operator left right => by
      rw [shift, test, test, eval_shift context amount left,
        eval_shift context amount right, Evaluation.shift_compare]
  | .text _ | .number _ | .field | .now | .concat _ | .add _ _
  | .choose _ _ _ | .invalid _ _ => rfl

theorem evalAll_shiftAll (context : Context) (amount : Nat) :
    ∀ parts : List Expr, evalAll context (shiftAll amount parts) =
      (evalAll context parts).shift amount
  | [] => rfl
  | part :: others => by
      rw [shiftAll, evalAll, evalAll, eval_shift context amount part,
        evalAll_shiftAll context amount others, Evaluation.shift_append]

end

end Expr

/-! ## Integer operands -/

/-- Tokens of an integer operand and the integer that they stand for at an
instant: digits with or without a minus sign, the instant itself, or one of
these in parentheses. -/
inductive Grammar.IntegerRun (now : Int) : List Token.Kind -> Int -> Prop
  | digits {digits : Text} {number : Nat} :
      digits.Denotes number -> IntegerRun now [.number digits] number
  | negated {digits : Text} {number : Nat} :
      digits.Denotes number ->
      IntegerRun now [.number ('-' :: digits)] (-number)
  | now : IntegerRun now [.now] now
  | group {inside : List Token.Kind} {number : Int} :
      IntegerRun now inside number ->
      IntegerRun now (.leftParen :: inside ++ [.rightParen]) number

/-- Texts that are read as an integer operand. -/
def IsIntegerOperand (now : Int) (text : Text) (number : Int) : Prop :=
  ∃ tokens, tokenize text = .ok tokens ∧
    Grammar.IntegerRun now (kinds tokens) number

/-- The numerals that take part in integer addition are digits with or without
a minus sign. -/
theorem Expr.isIntegerNumeral_iff {numeral : Text} :
    isIntegerNumeral numeral ↔
      ∃ digits number, digits.Denotes number ∧
        (numeral = digits ∨ numeral = '-' :: digits) := by
  have denotes {digits : Text} :
      (!digits.isEmpty && digits.all Char.isDigit) = true ↔
        ∃ number, digits.Denotes number := by
    rw [Bool.and_eq_true, Bool.not_eq_true', List.isEmpty_eq_false_iff,
      List.all_eq_true]
    exact ⟨fun ⟨nonempty, areDigits⟩ => ⟨_, nonempty, areDigits, rfl⟩,
      fun ⟨_, nonempty, areDigits, _⟩ => ⟨nonempty, areDigits⟩⟩
  unfold isIntegerNumeral
  split
  · next rest =>
      rw [denotes]
      constructor
      · rintro ⟨number, isDenoted⟩
        exact ⟨rest, number, isDenoted, .inr rfl⟩
      · rintro ⟨digits, number, isDenoted, rfl | same⟩
        · exact absurd List.mem_cons_self (isDenoted.notMem rfl)
        · cases same
          exact ⟨number, isDenoted⟩
  · next notMinus =>
      rw [denotes]
      constructor
      · rintro ⟨number, isDenoted⟩
        exact ⟨numeral, number, isDenoted, .inl rfl⟩
      · rintro ⟨digits, number, isDenoted, rfl | same⟩
        · exact ⟨number, isDenoted⟩
        · exact absurd same (notMinus digits)

namespace Parser

variable {levels : Nat} {tokens : List Token} {value : Expr}

/-- An operand of one token has the value of that token. -/
theorem IsOperand.eq_of_atom?
    (isOperand : IsOperand levels tokens value)
    {kind : Token.Kind}
    {formula : Expr}
    (same : kinds tokens = [kind])
    (isAtom : kind.atom? = some formula) :
    value = formula := by
  obtain ⟨token, rfl, rfl⟩ := kinds_eq_singleton_iff.mp same
  have read := (reads_operand levels).complete isOperand []
  rw [(reads_operand levels).complete (isOperand_of_atom? isAtom levels) []]
    at read
  cases read
  rfl

/-- An operand in parentheses has the value of what stands inside. -/
theorem IsOperand.exists_isFormula
    (isOperand : IsOperand levels tokens value)
    {inside : List Token.Kind}
    (same : kinds tokens = .leftParen :: inside ++ [.rightParen]) :
    ∃ inner used, kinds used = inside ∧ IsFormula inner used value := by
  have notAtom : ¬IsAtom tokens value := by
    rintro ⟨_⟩
    simp at same
  cases levels with
  | zero => exact absurd isOperand notAtom
  | succ levels =>
      obtain isAtom | isGroup | isCall := isOperand
      · exact absurd isAtom notAtom
      · cases isGroup with
        | @group opening closing used _ isOpening isFormula isClosing =>
            refine ⟨levels, used, ?_, isFormula⟩
            simpa [isOpening, isClosing] using same
      · cases isCall with
        | call isName _ _ => simp [isName] at same

end Parser

namespace Grammar.IntegerRun

variable {now number : Int} {run : List Token.Kind}

/-- No operator stands in an integer operand. -/
theorem not_operator
    (isRun : IntegerRun now run number) :
    ∀ kind ∈ run, kind ≠ .plus ∧ kind.comparison? = none := by
  induction isRun with
  | digits | negated | now => simp [Token.Kind.comparison?]
  | group _ inductionHypothesis =>
      simp only [List.cons_append, List.forall_mem_cons,
        List.forall_mem_append]
      exact ⟨⟨by simp, rfl⟩, inductionHypothesis, ⟨by simp, rfl⟩, by simp⟩

/-- Where an integer operand is read as a formula, it is read as an operand. -/
theorem isOperand_of_isFormula
    {levels : Nat}
    {tokens : List Token}
    {value : Expr}
    (isRun : IntegerRun now (kinds tokens) number)
    (isFormula : IsFormula levels tokens value) :
    IsOperand levels tokens value := by
  have noOperator := isRun.not_operator
  cases isFormula with
  | @compare token _ _ _ _ _ _ isOperator _ =>
      have isNone := (noOperator token.kind (by simp [kinds])).2
      rw [isOperator] at isNone
      cases isNone
  | sum isSum =>
      cases isSum with
      | sum isFirst areMore =>
          cases areMore with
          | none => simpa using isFirst
          | @operand plus _ _ _ _ isPlus =>
              exact absurd isPlus (noOperator plus.kind (by simp [kinds])).1

/-- An integer operand takes part in integer addition, and its value is a
numeral of its integer, met without anomalies. -/
theorem isInteger_and_eval
    {context : Context}
    {levels : Nat}
    {tokens : List Token}
    {value : Expr}
    (isRun : IntegerRun context.now run number)
    (same : kinds tokens = run)
    (isOperand : IsOperand levels tokens value) :
    value.isInteger ∧ ∃ numeral, IsNumeralOf number numeral ∧
      value.eval context = .pure numeral := by
  induction isRun generalizing levels tokens value with
  | @digits digits number denotes =>
      obtain rfl := isOperand.eq_of_atom? same rfl
      exact ⟨Expr.isIntegerNumeral_iff.mpr ⟨_, _, denotes, .inl rfl⟩, digits,
        .unsigned denotes, rfl⟩
  | @negated digits number denotes =>
      obtain rfl := isOperand.eq_of_atom? same rfl
      exact ⟨Expr.isIntegerNumeral_iff.mpr ⟨_, _, denotes, .inr rfl⟩,
        '-' :: digits, .minus denotes, rfl⟩
  | now =>
      obtain rfl := isOperand.eq_of_atom? same rfl
      exact ⟨rfl, _, isNumeralOf_ofInt context.now, rfl⟩
  | group isRun inductionHypothesis =>
      obtain ⟨inner, used, sameInside, isFormula⟩ :=
        isOperand.exists_isFormula same
      rw [← sameInside] at isRun
      exact inductionHypothesis sameInside
        (isRun.isOperand_of_isFormula isFormula)

end Grammar.IntegerRun

theorem Grammar.exists_integerRun_of_atom?
    {kind : Token.Kind}
    {value : Expr}
    (isAtom : kind.atom? = some value)
    (isInteger : value.isInteger)
    (now : Int) :
    ∃ number, IntegerRun now [kind] number := by
  cases kind with
  | number numeral =>
      cases isAtom
      obtain ⟨digits, number, denotes, rfl | rfl⟩ :=
        Expr.isIntegerNumeral_iff.mp isInteger
      · exact ⟨number, .digits denotes⟩
      · exact ⟨-number, .negated denotes⟩
  | now => exact ⟨now, .now⟩
  | text | field =>
      cases isAtom
      cases isInteger
  | _ => cases isAtom

namespace Parser

variable {levels : Nat} {tokens : List Token} {value : Expr}

/-- A formula that takes part in integer addition is one operand, since sums
and comparisons do not. -/
theorem IsComparison.isOperand_of_isInteger
    (isFormula : IsFormula levels tokens value)
    (isInteger : value.isInteger) :
    IsOperand levels tokens value := by
  cases isFormula with
  | compare => cases isInteger
  | sum isSum =>
      cases isSum with
      | @sum _ _ first _ isFirst areMore =>
          cases areMore with
          | none => simpa using isFirst
          | @operand _ _ _ second values =>
              obtain ⟨_, _, same⟩ | ⟨_, same⟩ :=
                Expr.sum_cons_cases first second values <;>
              · rw [same] at isInteger
                cases isInteger

/-- An operand that takes part in integer addition consists of the tokens of an
integer operand. -/
theorem IsOperand.exists_integerRun
    (isOperand : IsOperand levels tokens value)
    (isInteger : value.isInteger)
    (now : Int) :
    ∃ number, Grammar.IntegerRun now (kinds tokens) number := by
  have atom {tokens : List Token} (isAtom : IsAtom tokens value) :
      ∃ number, Grammar.IntegerRun now (kinds tokens) number := by
    cases isAtom with
    | token isAtom =>
        exact Grammar.exists_integerRun_of_atom? isAtom isInteger now
  induction levels generalizing tokens with
  | zero => exact atom isOperand
  | succ levels inductionHypothesis =>
      obtain isAtom | isGroup | isCall := isOperand
      · exact atom isAtom
      · cases isGroup with
        | group isOpening isFormula isClosing =>
            obtain ⟨number, isRun⟩ := inductionHypothesis
              (isFormula.isOperand_of_isInteger isInteger)
            refine ⟨number, ?_⟩
            simpa [isOpening, isClosing] using isRun.group
      · cases isCall
        cases isInteger

end Parser

/-! ## Sums -/

/-- The sum of two numerals is computed if their integers and the sum fit. -/
theorem Evaluation.add_of_isNumeralOf
    {first second : Int}
    {left right : Text}
    (isFirst : IsNumeralOf first left)
    (isSecond : IsNumeralOf second right) :
    (pure left).add (pure right) =
      if fitsInt64 first && fitsInt64 second && fitsInt64 (first + second) then
        pure (Text.ofInt (first + second))
      else
        ⟨left ++ right, [.overflow left right]⟩ := by
  simp only [add, addIntegers, readInt64?, pure, isFirst.readInteger?_eq,
    isSecond.readInteger?_eq]
  cases firstFits : fitsInt64 first <;> cases secondFits : fitsInt64 second <;>
    cases sumFits : fitsInt64 (first + second) <;>
    simp [Option.filter, firstFits, secondFits, sumFits]

/-- Operands evaluated one after the other, each by itself. The offsets in
their anomalies count from the start of the whole, in which three bytes stand
between two operands. -/
def evaluateOperands (context : Context) : Nat -> List Text -> Evaluation
  | _, [] => .pure []
  | offset, text :: others =>
      ((evaluate context ('=' :: text)).shift offset).append
        (evaluateOperands context (offset + text.byteLength + 3) others)

theorem evalAll_placedOperands
    (context : Context)
    (offset : Nat)
    (texts : List Text) :
    Expr.evalAll context (placedOperands offset texts) =
      evaluateOperands context offset texts := by
  induction texts generalizing offset with
  | nil => rfl
  | cons text others inductionHypothesis =>
      rw [placedOperands, Expr.evalAll, Expr.eval_shift, inductionHypothesis]
      rfl

/-- A text that is read as an integer operand takes part in integer addition,
and its value is a numeral of its integer. -/
theorem IsIntegerOperand.isInteger_and_eval
    {context : Context}
    {text : Text}
    {number : Int}
    (isInteger : IsIntegerOperand context.now text number)
    (standsAsOperand : StandsAsOperand text) :
    (parse text).isInteger ∧ ∃ numeral, IsNumeralOf number numeral ∧
      (parse text).eval context = .pure numeral := by
  obtain ⟨tokens, tokenized, isOperand⟩ := standsAsOperand.exists_isOperand
  obtain ⟨others, sameTokens, isRun⟩ := isInteger
  cases tokenized.symm.trans sameTokens
  exact isRun.isInteger_and_eval rfl isOperand

theorem StandsAsOperand.exists_isIntegerOperand
    {text : Text}
    (standsAsOperand : StandsAsOperand text)
    (isInteger : (parse text).isInteger)
    (now : Int) :
    ∃ number, IsIntegerOperand now text number := by
  obtain ⟨tokens, tokenized, isOperand⟩ := standsAsOperand.exists_isOperand
  obtain ⟨number, isRun⟩ := isOperand.exists_integerRun isInteger now
  exact ⟨number, tokens, tokenized, isRun⟩

/-- The sum of two integers is their sum as a 64-bit integer, or else the
concatenation of their values with an overflow. -/
theorem evaluate_sum_of_isIntegerOperand
    {context : Context}
    {first second : Text}
    {left right : Int}
    (firstStands : StandsAsOperand first)
    (secondStands : StandsAsOperand second)
    (isFirst : IsIntegerOperand context.now first left)
    (isSecond : IsIntegerOperand context.now second right) :
    evaluate context ('=' :: Text.joined " + " [first, second]) =
      if fitsInt64 left && fitsInt64 right && fitsInt64 (left + right) then
        .pure (Text.ofInt (left + right))
      else
        ⟨(evaluate context ('=' :: first)).value ++
            (evaluate context ('=' :: second)).value,
          [.overflow (evaluate context ('=' :: first)).value
            (evaluate context ('=' :: second)).value]⟩ := by
  obtain ⟨firstInteger, firstNumeral, isFirstNumeral, firstValue⟩ :=
    isFirst.isInteger_and_eval firstStands
  obtain ⟨secondInteger, secondNumeral, isSecondNumeral, secondValue⟩ :=
    isSecond.isInteger_and_eval secondStands
  have parsed := @parse_joined first [second] (by simp [firstStands, secondStands])
  simp only [placedOperands, Expr.sum, Expr.isInteger_shift, firstInteger,
    secondInteger, Bool.and_self, if_true] at parsed
  simp only [evaluate, parsed, Expr.eval, Expr.eval_shift, firstValue,
    secondValue, Evaluation.shift_pure,
    Evaluation.add_of_isNumeralOf isFirstNumeral isSecondNumeral]
  rfl

/-- Operands that are not two integers are evaluated by themselves, one after
the other. -/
theorem evaluate_joined_of_not_integers
    {context : Context}
    {first second : Text}
    {others : List Text}
    (operands : ∀ text ∈ first :: second :: others, StandsAsOperand text)
    (notIntegers : ¬∃ left right, others = [] ∧
      IsIntegerOperand context.now first left ∧
      IsIntegerOperand context.now second right) :
    evaluate context ('=' :: Text.joined " + " (first :: second :: others)) =
      evaluateOperands context 0 (first :: second :: others) := by
  rw [← evalAll_placedOperands, evaluate, parse_joined operands]
  obtain ⟨noOthers, areIntegers, _⟩ | ⟨_, concatenated⟩ :=
    Expr.sum_cons_cases ((parse first).shift 0)
      ((parse second).shift (first.byteLength + 3))
      (placedOperands (first.byteLength + 3 + second.byteLength + 3) others)
  · -- what is added is two integers by their tokens, too
    rw [Expr.isInteger_shift, Expr.isInteger_shift, Bool.and_eq_true]
      at areIntegers
    obtain ⟨firstInteger, secondInteger⟩ := areIntegers
    obtain ⟨left, isFirst⟩ := (operands first (by simp)).exists_isIntegerOperand
      firstInteger context.now
    obtain ⟨right, isSecond⟩ :=
      (operands second (by simp)).exists_isIntegerOperand secondInteger
        context.now
    cases others with
    | nil => exact absurd ⟨left, right, rfl, isFirst, isSecond⟩ notIntegers
    | cons => cases noOthers
  · rw [placedOperands, concatenated, Expr.eval, placedOperands,
      placedOperands, Nat.zero_add]

/-- Joined operands mean this. Two integers are added, if they and their sum
are 64-bit integers, and are otherwise concatenated with an overflow. All other
operands are evaluated by themselves and concatenated, and nothing is found
wrong with the sum. -/
theorem evaluate_joined_operands
    (context : Context)
    {texts : List Text}
    (several : 2 ≤ texts.length)
    (operands : ∀ text ∈ texts, StandsAsOperand text) :
    (∀ first second left right, texts = [first, second] ->
      IsIntegerOperand context.now first left ->
      IsIntegerOperand context.now second right ->
      evaluate context ('=' :: Text.joined " + " texts) =
        if fitsInt64 left && fitsInt64 right && fitsInt64 (left + right) then
          .pure (Text.ofInt (left + right))
        else
          ⟨(evaluate context ('=' :: first)).value ++
              (evaluate context ('=' :: second)).value,
            [.overflow (evaluate context ('=' :: first)).value
              (evaluate context ('=' :: second)).value]⟩) ∧
    ((¬∃ first second left right, texts = [first, second] ∧
        IsIntegerOperand context.now first left ∧
        IsIntegerOperand context.now second right) ->
      evaluate context ('=' :: Text.joined " + " texts) =
        evaluateOperands context 0 texts) := by
  constructor
  · rintro first second left right rfl isFirst isSecond
    exact evaluate_sum_of_isIntegerOperand (operands first (by simp))
      (operands second (by simp)) isFirst isSecond
  · intro notIntegers
    match texts, several with
    | first :: second :: others, _ =>
        refine evaluate_joined_of_not_integers operands ?_
        rintro ⟨left, right, rfl, isFirst, isSecond⟩
        exact notIntegers ⟨first, second, left, right, rfl, isFirst, isSecond⟩

/-- The instant in parentheses and a number with zeros in front, whose sum is
too large; and a call with a malformed branch that stands further on. -/
theorem evaluate_joined_operands_overflow :
    let context : Context := ⟨['x'], 9223372036854775807⟩
    let integers : List Text := ["(@now)", "001"]
    let others : List Text := ["-1", "if(2<=1,@no,@me)", "@currentField"]
    ((∀ text ∈ integers, StandsAsOperand text) ∧
      IsIntegerOperand context.now "(@now)" 9223372036854775807 ∧
      IsIntegerOperand context.now "001" 1 ∧
      evaluate context "=(@now) + 001" =
        ⟨"9223372036854775807001",
          [.overflow "9223372036854775807" "001"]⟩) ∧
    ((∀ text ∈ others, StandsAsOperand text) ∧
      evaluate context "=-1 + if(2<=1,@no,@me) + @currentField" =
        evaluateOperands context 0 others ∧
      evaluateOperands context 0 others =
        ⟨"-1@mex", [.malformed "@me" (.unknownReference "me" 17)]⟩) := by
  intro context integers others
  have isNow : Grammar.IntegerRun context.now
      [.leftParen, .now, .rightParen] context.now :=
    .group .now
  have isOne : Grammar.IntegerRun context.now [.number ['0', '0', '1']] 1 :=
    .digits (by decide)
  have nowTokenized : tokenize "(@now)" = .ok
      [⟨.leftParen, 0, [], ['(']⟩, ⟨.now, 1, [], '@' :: nowName⟩,
        ⟨.rightParen, 5, [], [')']⟩] := by
    with_unfolding_all rfl
  have oneTokenized : tokenize "001" = .ok
      [⟨.number ['0', '0', '1'], 0, [], ['0', '0', '1']⟩] := by
    with_unfolding_all rfl
  have callTokenized : tokenize "if(2<=1,@no,@me)" = .ok
      [⟨.word ['i', 'f'], 0, [], ['i', 'f']⟩, ⟨.leftParen, 2, [], ['(']⟩,
        ⟨.number ['2'], 3, [], ['2']⟩, ⟨.atMost, 4, [], ['<', '=']⟩,
        ⟨.number ['1'], 6, [], ['1']⟩, ⟨.comma, 7, [], [',']⟩,
        ⟨.reference ['n', 'o'], 8, [], ['@', 'n', 'o']⟩,
        ⟨.comma, 11, [], [',']⟩,
        ⟨.reference ['m', 'e'], 12, [], ['@', 'm', 'e']⟩,
        ⟨.rightParen, 15, [], [')']⟩] := by
    with_unfolding_all rfl
  have isCall := @Grammar.OperandRun.call 127
    [[.number ['2'], .atMost, .number ['1']], [.reference ['n', 'o']],
      [.reference ['m', 'e']]] (by decide) (by decide)
  have integersStand : ∀ text ∈ integers, StandsAsOperand text := by
    intro text present
    simp only [integers, List.mem_cons, List.not_mem_nil, or_false] at present
    obtain rfl | rfl := present
    · exact ⟨_, nowTokenized, .group (.sum (.operand (.now 127)))⟩
    · exact ⟨_, oneTokenized, .number _ _⟩
  have othersStand : ∀ text ∈ others, StandsAsOperand text := by
    intro text present
    simp only [others, List.mem_cons, List.not_mem_nil, or_false] at present
    obtain rfl | rfl | rfl := present
    · exact ⟨[⟨.number ['-', '1'], 0, [], ['-', '1']⟩],
        by with_unfolding_all rfl, .number _ _⟩
    · exact ⟨_, callTokenized, isCall⟩
    · exact ⟨[⟨.field, 0, [], '@' :: fieldName⟩], by with_unfolding_all rfl,
        .field _⟩
  have notTwo : ¬∃ first second left right, others = [first, second] ∧
      IsIntegerOperand context.now first left ∧
      IsIntegerOperand context.now second right := by
    rintro ⟨first, second, _, _, isTwo, _⟩
    simp [others] at isTwo
  have added := (evaluate_joined_operands context (by decide)
    integersStand).1 _ _ _ _ rfl ⟨_, nowTokenized, isNow⟩ ⟨_, oneTokenized, isOne⟩
  have concatenated := (evaluate_joined_operands context (by decide)
    othersStand).2 notTwo
  refine ⟨⟨integersStand, ⟨_, nowTokenized, isNow⟩, ⟨_, oneTokenized, isOne⟩,
    added.trans ?_⟩, othersStand, concatenated, ?_⟩
  · decide +kernel
  · decide +kernel

end Formula
end CellPreview
