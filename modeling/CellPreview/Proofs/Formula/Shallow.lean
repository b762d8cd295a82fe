import CellPreview.Formula.Evaluation
import CellPreview.Proofs.Formula.Reparsing

/-!
# Trees of bounded depth

However long a text is and however deep its parentheses are, it is parsed to a
shallow tree. Of the nodes on a path, each level of nesting adds one comparison,
one sum and one call at most, and parentheses add no node of their own. The
evaluation follows the tree, so its calls are nested to a bounded depth too:
with that many nested calls allowed, it runs to its end.
-/

namespace CellPreview
namespace Formula

open CellPreview.Formula.Parser

/-! ## Layers -/

/-- What a formula is in the place where it stands. -/
inductive Layer
  | operand
  | sum
  | formula

/-- Formulas that may stand in a place with at most `levels` levels nested in
them. What is one level further in is a formula again, be it an argument of a
call or in parentheses, of which no node is left. -/
inductive Layered : Nat -> Layer -> Expr -> Prop
  | atom {levels : Nat} {kind : Token.Kind} {value : Expr} :
      kind.atom? = some value -> Layered levels .operand value
  | group {levels : Nat} {value : Expr} :
      Layered levels .formula value -> Layered (levels + 1) .operand value
  | choose {levels : Nat} {condition whenTrue otherwise : Expr} :
      Layered levels .formula condition -> Layered levels .formula whenTrue ->
      Layered levels .formula otherwise ->
      Layered (levels + 1) .operand (.choose condition whenTrue otherwise)
  | operand {levels : Nat} {value : Expr} :
      Layered levels .operand value -> Layered levels .sum value
  | concat {levels : Nat} {parts : List Expr} :
      (∀ part ∈ parts, Layered levels .operand part) ->
      Layered levels .sum (.concat parts)
  | add {levels : Nat} {left right : Expr} :
      Layered levels .operand left -> Layered levels .operand right ->
      Layered levels .sum (.add left right)
  | sum {levels : Nat} {value : Expr} :
      Layered levels .sum value -> Layered levels .formula value
  | compare {levels : Nat} {left right : Expr} (operator : Comparison) :
      Layered levels .sum left -> Layered levels .sum right ->
      Layered levels .formula (.compare operator left right)
  | invalid {levels : Nat} (source : Text) (cause : Error) :
      Layered levels .formula (.invalid source cause)

section

variable {levels : Nat} {reading : Reading Expr}

theorem layered_more
    (layered : forall {used value}, reading used value ->
      Layered levels .operand value)
    {used : List Token}
    {values : List Expr}
    (areMore : IsMore reading used values) :
    ∀ value ∈ values, Layered levels .operand value := by
  induction areMore with
  | none => simp
  | operand _ isValue _ inductionHypothesis =>
      exact List.forall_mem_cons.mpr ⟨layered isValue, inductionHypothesis⟩

theorem layered_sum
    (layered : forall {used value}, reading used value ->
      Layered levels .operand value)
    {used : List Token}
    {value : Expr}
    (isSum : IsSum reading used value) :
    Layered levels .sum value := by
  cases isSum with
  | @sum _ _ first values isFirst areOthers =>
      have othersLayered := layered_more layered areOthers
      cases values with
      | nil => exact .operand (layered isFirst)
      | cons second values =>
          obtain ⟨rfl, _, added⟩ | ⟨_, concatenated⟩ :=
            Expr.sum_cons_cases first second values
          · rw [added]
            exact .add (layered isFirst) (othersLayered second (by simp))
          · rw [concatenated]
            exact .concat
              (List.forall_mem_cons.mpr ⟨layered isFirst, othersLayered⟩)

theorem layered_comparison
    (layered : forall {used value}, reading used value ->
      Layered levels .operand value)
    {used : List Token}
    {value : Expr}
    (isComparison : IsComparison reading used value) :
    Layered levels .formula value := by
  cases isComparison with
  | sum isSum => exact .sum (layered_sum layered isSum)
  | @compare _ operator _ _ _ _ isLeft _ isRight =>
      exact .compare operator (layered_sum layered isLeft)
        (layered_sum layered isRight)

end

theorem layered_fragment
    {levels : Nat}
    (layered : forall {used value}, IsOperand levels used value ->
      Layered levels .operand value)
    (tokens : List Token) :
    Layered levels .formula (fragment (operand levels) tokens) := by
  obtain isFormula | ⟨cause, isInvalid⟩ := fragment_cases levels tokens
  · exact layered_comparison layered isFormula
  · rw [isInvalid]
    exact .invalid _ cause

/-- What is read as an operand is one, within the levels of the parser. -/
theorem layered_operand
    {levels : Nat}
    {used : List Token}
    {value : Expr}
    (isOperand : IsOperand levels used value) :
    Layered levels .operand value := by
  induction levels generalizing used value with
  | zero =>
      cases isOperand with
      | token isAtom => exact .atom isAtom
  | succ levels inductionHypothesis =>
      obtain isAtom | isGroup | isCall := isOperand
      · cases isAtom with
        | token isAtom => exact .atom isAtom
      · cases isGroup with
        | group _ isFormula _ =>
            exact .group (layered_comparison inductionHypothesis isFormula)
      · cases isCall with
        | call _ _ _ =>
            exact .choose (layered_fragment inductionHypothesis _)
              (layered_fragment inductionHypothesis _)
              (layered_fragment inductionHypothesis _)

/-- Every text is parsed to a formula within the nesting limit, well formed or
not. -/
theorem layered_parse (body : Text) :
    Layered nestingLimit .formula (parse body) := by
  cases tokenized : tokenize body with
  | ok tokens =>
      rw [parse_eq_fragment tokenized]
      exact layered_fragment layered_operand tokens
  | error cause =>
      rw [parse_eq_invalid tokenized]
      exact .invalid _ cause

/-! ## Paths -/

namespace Expr

/-- Whether operands are joined at the root. -/
def isSum : Expr -> Bool
  | .concat _ => true
  | .add _ _ => true
  | _ => false

/-- Whether a call stands at the root. -/
def isCall : Expr -> Bool
  | .choose _ _ _ => true
  | _ => false

/-- The nodes between the root of a tree and one of its leaves, from the root
to the leaf. -/
inductive IsPath : Expr -> List Expr -> Prop
  | leaf {formula : Expr} :
      formula.children = [] -> IsPath formula [formula]
  | child {formula child : Expr} {path : List Expr} :
      child ∈ formula.children -> IsPath child path ->
      IsPath formula (formula :: path)

/-- All nodes of a path but the leaf are comparisons, sums or calls. -/
theorem IsPath.length_le
    {formula : Expr}
    {path : List Expr}
    (isPath : formula.IsPath path) :
    path.length ≤ path.countP isComparison + path.countP isSum +
      path.countP isCall + 1 := by
  induction isPath with
  | leaf _ => simp
  | @child formula child path isChild _ inductionHypothesis =>
      simp only [List.length_cons, List.countP_cons]
      cases formula with
      | text | number | field | now | invalid => cases isChild
      | concat | add | compare | choose =>
          simp only [isComparison, isSum, isCall, Bool.false_eq_true, ↓reduceIte]
          omega

/-- No path has more than some comparisons, sums and calls on it. -/
def Keeps (comparisons sums calls : Nat) (formula : Expr) : Prop :=
  ∀ path, formula.IsPath path ->
    path.countP isComparison ≤ comparisons ∧ path.countP isSum ≤ sums ∧
      path.countP isCall ≤ calls

namespace Keeps

variable {comparisons sums calls : Nat} {formula : Expr}

theorem mono
    {moreComparisons moreSums moreCalls : Nat}
    (keeps : formula.Keeps comparisons sums calls)
    (comparisonsLe : comparisons ≤ moreComparisons)
    (sumsLe : sums ≤ moreSums)
    (callsLe : calls ≤ moreCalls) :
    formula.Keeps moreComparisons moreSums moreCalls := by
  intro path isPath
  obtain ⟨fewComparisons, fewSums, fewCalls⟩ := keeps path isPath
  exact ⟨fewComparisons.trans comparisonsLe, fewSums.trans sumsLe,
    fewCalls.trans callsLe⟩

/-- The root adds itself to every path from one of its children. -/
theorem of_children
    (keeps : ∀ child ∈ formula.children, child.Keeps comparisons sums calls) :
    formula.Keeps (comparisons + formula.isComparison.toNat)
      (sums + formula.isSum.toNat) (calls + formula.isCall.toNat) := by
  intro path isPath
  cases isPath with
  | leaf _ =>
      simp only [List.countP_singleton]
      cases formula.isComparison <;> cases formula.isSum <;>
        cases formula.isCall <;> simp
  | @child _ child path isChild isPath =>
      have bound := keeps child isChild path isPath
      simp only [List.countP_cons]
      cases formula.isComparison <;> cases formula.isSum <;>
        cases formula.isCall <;> simp <;> omega

end Keeps
end Expr

namespace Layer

/-- How many comparisons a path may have besides one for each level. -/
def comparisons : Layer -> Nat
  | operand => 0
  | sum => 0
  | formula => 1

/-- How many sums a path may have besides one for each level. -/
def sums : Layer -> Nat
  | operand => 0
  | sum => 1
  | formula => 1

/-- How many calls an evaluation nests besides four for each level. -/
def calls : Layer -> Nat
  | operand => 1
  | sum => 2
  | formula => 4

end Layer

/-- Every level adds one node of each kind to a path at most. -/
theorem Layered.keeps
    {levels : Nat}
    {layer : Layer}
    {formula : Expr}
    (layered : Layered levels layer formula) :
    formula.Keeps (levels + layer.comparisons) (levels + layer.sums)
      levels := by
  -- parentheses use up a level without a node, so a formula has to keep within
  -- the bounds of an operand one level further out
  induction layered with
  | @atom levels kind value isAtom =>
      unfold Token.Kind.atom? at isAtom
      split at isAtom <;> cases isAtom <;> exact .of_children nofun
  | group _ inside =>
      exact inside.mono le_rfl le_rfl (Nat.le_succ _)
  | choose _ _ _ condition whenTrue otherwise =>
      exact .of_children (Expr.forall_mem_arguments condition whenTrue otherwise)
  | operand _ keeps => exact keeps.mono le_rfl (Nat.le_succ _) le_rfl
  | concat _ parts => exact .of_children parts
  | add _ _ left right =>
      exact .of_children (Expr.forall_mem_pair left right)
  | sum _ keeps => exact keeps.mono (Nat.le_succ _) le_rfl le_rfl
  | compare operator _ _ left right =>
      exact .of_children (Expr.forall_mem_pair left right)
  | @invalid levels source cause =>
      have none : (Expr.invalid source cause).Keeps levels levels levels :=
        .of_children nofun
      exact none.mono (Nat.le_succ _) (Nat.le_succ _) le_rfl

/-! ## Evaluation -/

namespace Expr

mutual

/-- Value of an expression, when no more than `calls` calls may be nested. A
comparison is decided by the test of a condition, which is a call of its own. -/
def evalWithin (context : Context) : Nat -> Expr -> Option Evaluation
  | 0, _ => none
  | _ + 1, .text content => some (.pure content)
  | _ + 1, .number numeral => some (.pure numeral)
  | _ + 1, .field => some (.pure context.field)
  | _ + 1, .now => some (.pure (Text.ofInt context.now))
  | calls + 1, .concat parts => do
      let values <- parts.mapM (evalWithin context calls)
      return values.foldr .append (.pure [])
  | calls + 1, .add left right => do
      let first <- evalWithin context calls left
      let second <- evalWithin context calls right
      return first.add second
  | calls + 1, .compare operator left right => do
      let verdict <- testWithin context calls (.compare operator left right)
      return verdict.asText
  | calls + 1, .choose condition whenTrue otherwise => do
      let verdict <- testWithin context calls condition
      let taken <- evalWithin context calls
        (if verdict.holds then whenTrue else otherwise)
      return taken.after verdict.anomalies
  | _ + 1, .invalid source cause => some (.malformed context source cause)

/-- Truth of an expression as a condition, when no more than `calls` calls may
be nested. -/
def testWithin (context : Context) : Nat -> Expr -> Option Verdict
  | 0, _ => none
  | calls + 1, .compare operator left right => do
      let first <- evalWithin context calls left
      let second <- evalWithin context calls right
      return first.compare operator second
  | calls + 1, .invalid source cause => do
      let malformed <- evalWithin context calls (.invalid source cause)
      return ⟨false, malformed.anomalies⟩
  | _ + 1, _ => some ⟨false, [.notComparison]⟩

end

theorem evalAll_eq_foldr (context : Context) (parts : List Expr) :
    evalAll context parts =
      (parts.map (eval context)).foldr .append (.pure []) := by
  induction parts with
  | nil => rfl
  | cons part others inductionHypothesis =>
      rw [evalAll, inductionHypothesis]
      rfl

/-- An expression is evaluated and tested to the end as soon as some number of
calls may be nested. -/
structure RunsWithin (calls : Nat) (formula : Expr) : Prop where
  eval : ∀ context more, calls ≤ more ->
    formula.evalWithin context more = some (formula.eval context)
  test : ∀ context more, calls ≤ more ->
    formula.testWithin context more = some (formula.test context)

namespace RunsWithin

variable {calls : Nat}

theorem mono
    {more : Nat}
    {formula : Expr}
    (runs : formula.RunsWithin calls)
    (callsLe : calls ≤ more) :
    formula.RunsWithin more where
  eval context most moreLe := runs.eval context most (callsLe.trans moreLe)
  test context most moreLe := runs.test context most (callsLe.trans moreLe)

/-- It is enough to look at what happens when a call may be made at all. -/
theorem of_succ
    {formula : Expr}
    (eval : ∀ context more, calls ≤ more ->
      formula.evalWithin context (more + 1) = some (formula.eval context))
    (test : ∀ context more, calls ≤ more ->
      formula.testWithin context (more + 1) = some (formula.test context)) :
    formula.RunsWithin (calls + 1) := by
  constructor
  · rintro context (_ | more) enough
    · contradiction
    · exact eval context more (Nat.le_of_succ_le_succ enough)
  · rintro context (_ | more) enough
    · contradiction
    · exact test context more (Nat.le_of_succ_le_succ enough)

theorem atom
    {kind : Token.Kind}
    {formula : Expr}
    (isAtom : kind.atom? = some formula) :
    formula.RunsWithin 1 := by
  unfold Token.Kind.atom? at isAtom
  split at isAtom <;> cases isAtom <;>
    exact of_succ (fun _ _ _ => rfl) (fun _ _ _ => rfl)

theorem mapM_evalWithin
    {parts : List Expr}
    (runs : ∀ part ∈ parts, part.RunsWithin calls)
    (context : Context)
    {more : Nat}
    (enough : calls ≤ more) :
    parts.mapM (evalWithin context more) =
      some (parts.map (Expr.eval context)) := by
  induction parts with
  | nil => rfl
  | cons part others inductionHypothesis =>
      obtain ⟨partRuns, othersRun⟩ := List.forall_mem_cons.mp runs
      rw [List.mapM_cons, partRuns.eval context more enough,
        inductionHypothesis othersRun]
      rfl

theorem concat
    {parts : List Expr}
    (runs : ∀ part ∈ parts, part.RunsWithin calls) :
    (Expr.concat parts).RunsWithin (calls + 1) := by
  apply of_succ
  · intro context more enough
    rw [evalWithin, mapM_evalWithin runs context enough, Expr.eval,
      evalAll_eq_foldr]
    rfl
  · intro context more enough
    rfl

theorem add
    {left right : Expr}
    (leftRuns : left.RunsWithin calls)
    (rightRuns : right.RunsWithin calls) :
    (Expr.add left right).RunsWithin (calls + 1) := by
  apply of_succ
  · intro context more enough
    rw [evalWithin, leftRuns.eval context more enough,
      rightRuns.eval context more enough]
    rfl
  · intro context more enough
    rfl

/-- The value of a comparison takes one call more than its test. -/
theorem compare
    {left right : Expr}
    (leftRuns : left.RunsWithin calls)
    (rightRuns : right.RunsWithin calls)
    (operator : Comparison) :
    (Expr.compare operator left right).RunsWithin (calls + 2) := by
  have test (context : Context) (more : Nat) (enough : calls ≤ more) :
      (Expr.compare operator left right).testWithin context (more + 1) =
        some ((Expr.compare operator left right).test context) := by
    rw [testWithin, leftRuns.eval context more enough,
      rightRuns.eval context more enough]
    rfl
  apply of_succ
  · rintro context (_ | more) enough
    · contradiction
    · rw [evalWithin, test context more (Nat.le_of_succ_le_succ enough)]
      rfl
  · intro context more enough
    exact test context more (Nat.le_of_succ_le enough)

theorem choose
    {condition whenTrue otherwise : Expr}
    (conditionRuns : condition.RunsWithin calls)
    (whenTrueRuns : whenTrue.RunsWithin calls)
    (otherwiseRuns : otherwise.RunsWithin calls) :
    (Expr.choose condition whenTrue otherwise).RunsWithin (calls + 1) := by
  apply of_succ
  · intro context more enough
    rw [evalWithin, conditionRuns.test context more enough, Expr.eval]
    cases holds : (condition.test context).holds with
    | true => simp [holds, whenTrueRuns.eval context more enough]
    | false => simp [holds, otherwiseRuns.eval context more enough]
  · intro context more enough
    rfl

/-- A malformed condition is evaluated for its anomaly. -/
theorem invalid (source : Text) (cause : Error) :
    (Expr.invalid source cause).RunsWithin 2 := by
  apply of_succ
  · intro context more enough
    rfl
  · rintro context (_ | more) enough
    · contradiction
    · rfl

end RunsWithin
end Expr

/-- Every level adds a comparison, its test, a sum and an operand to the calls
that are nested. -/
theorem Layered.runsWithin
    {levels : Nat}
    {layer : Layer}
    {formula : Expr}
    (layered : Layered levels layer formula) :
    formula.RunsWithin (4 * levels + layer.calls) := by
  induction layered with
  | atom isAtom => exact (Expr.RunsWithin.atom isAtom).mono (Nat.le_add_left _ _)
  | group _ inside => exact inside.mono (by simp only [Layer.calls]; omega)
  | choose _ _ _ condition whenTrue otherwise =>
      exact condition.choose whenTrue otherwise
  | operand _ runs => exact runs.mono (Nat.le_succ _)
  | concat _ parts => exact .concat parts
  | add _ _ left right => exact left.add right
  | sum _ runs => exact runs.mono (by simp only [Layer.calls]; omega)
  | compare operator _ _ left right => exact left.compare right operator
  | invalid source cause =>
      exact (Expr.RunsWithin.invalid source cause).mono
        (by simp only [Layer.calls]; omega)

/-- Every text is parsed to a tree without long paths, and its evaluation nests
few calls. -/
theorem bounded_tree_and_evaluation (body : Text) :
    (∀ path, (parse body).IsPath path ->
      path.length ≤ 387 ∧ path.countP Expr.isComparison ≤ 129 ∧
        path.countP Expr.isSum ≤ 129 ∧ path.countP Expr.isCall ≤ 128) ∧
    ∀ context, (parse body).evalWithin context 516 =
      some ((parse body).eval context) := by
  have layered := layered_parse body
  constructor
  · intro path isPath
    obtain ⟨comparisons, sums, calls⟩ := layered.keeps path isPath
    have nodes := isPath.length_le
    simp only [nestingLimit, Layer.comparisons, Layer.sums]
      at comparisons sums calls
    omega
  · intro context
    exact layered.runsWithin.eval context 516 (Nat.le_refl _)

/-- A path through the condition of a call, and the evaluation of the call, which
ends in a malformed argument. -/
theorem bounded_tree_and_evaluation_call :
    let malformed : Expr :=
      .invalid ['@', 'm', 'e'] (.unknownReference ['m', 'e'] 14)
    let sum : Expr := .add (.number ['1']) (.number ['2'])
    let condition : Expr := .compare .equal (.number ['1']) sum
    let call : Expr := .choose condition (.text ['a']) malformed
    let path := [call, condition, sum, .number ['2']]
    (parse "if(1==1+2,'a',@me)").IsPath path ∧
    (path.length ≤ 387 ∧ path.countP Expr.isComparison ≤ 129 ∧
      path.countP Expr.isSum ≤ 129 ∧ path.countP Expr.isCall ≤ 128) ∧
    (parse "if(1==1+2,'a',@me)").evalWithin ⟨['x'], 0⟩ 516 =
      some ⟨['@', 'm', 'e'],
        [.malformed ['@', 'm', 'e'] (.unknownReference ['m', 'e'] 14)]⟩ := by
  intro malformed sum condition call path
  have tokenized : tokenize "if(1==1+2,'a',@me)" = .ok
      [⟨.word ['i', 'f'], 0, [], ['i', 'f']⟩, ⟨.leftParen, 2, [], ['(']⟩,
        ⟨.number ['1'], 3, [], ['1']⟩, ⟨.equals, 4, [], ['=', '=']⟩,
        ⟨.number ['1'], 6, [], ['1']⟩, ⟨.plus, 7, [], ['+']⟩,
        ⟨.number ['2'], 8, [], ['2']⟩, ⟨.comma, 9, [], [',']⟩,
        ⟨.text ['a'], 10, [], ['\'', 'a', '\'']⟩, ⟨.comma, 13, [], [',']⟩,
        ⟨.reference ['m', 'e'], 14, [], ['@', 'm', 'e']⟩,
        ⟨.rightParen, 17, [], [')']⟩] := by
    with_unfolding_all rfl
  have parsed : parse "if(1==1+2,'a',@me)" = call := by
    rw [parse_eq_fragment tokenized]
    rfl
  have isPath : (parse "if(1==1+2,'a',@me)").IsPath path := by
    rw [parsed]
    exact .child (.head _) (.child (.tail _ (.head _))
      (.child (.tail _ (.head _)) (.leaf rfl)))
  have bounds := bounded_tree_and_evaluation "if(1==1+2,'a',@me)"
  refine ⟨isPath, bounds.1 path isPath, (bounds.2 ⟨['x'], 0⟩).trans ?_⟩
  rw [parsed]
  with_unfolding_all rfl

/-! ## A longest path -/

namespace Expr

/-- A comparison of a sum that starts with a given operand. -/
def compared (operand : Expr) : Expr :=
  .compare .equal (.concat [operand, .field]) .field

/-- A formula that has a node of each kind at every level. -/
def fullLevels : Nat -> Expr
  | 0 => compared .field
  | levels + 1 => compared (.choose (fullLevels levels) .field .field)

theorem printable_compared
    {operand : Expr}
    (printable : operand.Printable)
    (notInteger : operand.isInteger = false) :
    operand.compared.Printable := by
  have leaf : Printable .field := printable_iff.mpr ⟨trivial, nofun⟩
  have sum : (Expr.concat [operand, .field]).Printable := by
    refine printable_iff.mpr ⟨⟨Nat.le_refl 2, ?_⟩, forall_mem_pair printable leaf⟩
    rintro left right ⟨⟩
    rw [notInteger]
    rfl
  exact printable_iff.mpr ⟨trivial, forall_mem_pair sum leaf⟩

theorem printable_fullLevels (levels : Nat) : (fullLevels levels).Printable := by
  have leaf : Printable .field := printable_iff.mpr ⟨trivial, nofun⟩
  induction levels with
  | zero => exact printable_compared leaf rfl
  | succ levels inductionHypothesis =>
      have call : (Expr.choose (fullLevels levels) .field .field).Printable :=
        printable_iff.mpr
          ⟨trivial, forall_mem_arguments inductionHypothesis leaf leaf⟩
      exact printable_compared call rfl

theorem depth_compared
    {operand : Expr}
    (notJoined : operand.isJoined = false) :
    depth operand.compared.spelling = depth operand.spelling := by
  have sum : (Expr.concat [operand, .field]).spelling =
      operand.spelling ++ [.plus, .field] := by
    rw [spelling, notJoined]
    rfl
  have whole : operand.compared.spelling =
      (Expr.concat [operand, .field]).spelling ++ [.equals, .field] := by
    rw [compared, spelling]
    rfl
  rw [whole, sum, List.append_assoc,
    (isArgument_spelling operand).depth_append]
  exact Nat.max_zero _

theorem depth_fullLevels (levels : Nat) :
    depth (fullLevels levels).spelling = levels := by
  induction levels with
  | zero => rfl
  | succ levels inductionHypothesis =>
      rw [fullLevels, depth_compared rfl, depth_choose, inductionHypothesis]
      simp [spelling, depth]

theorem IsPath.compared
    {operand : Expr}
    {path : List Expr}
    (isPath : operand.IsPath path) :
    operand.compared.IsPath
      (operand.compared :: .concat [operand, .field] :: path) :=
  .child (.head _) (.child (.head _) isPath)

theorem exists_path_fullLevels (levels : Nat) :
    ∃ path, (fullLevels levels).IsPath path ∧
      path.length = 3 * levels + 3 := by
  induction levels with
  | zero => exact ⟨_, (IsPath.leaf rfl).compared, rfl⟩
  | succ levels inductionHypothesis =>
      obtain ⟨path, isPath, length⟩ := inductionHypothesis
      refine ⟨_, (IsPath.child (.head _) isPath).compared, ?_⟩
      simp only [List.length_cons, length]
      omega

end Expr

/-- Some text is parsed to a tree with a path of as many nodes as there can
be. -/
theorem exists_longest_path :
    ∃ body path, (parse body).IsPath path ∧ path.length = 387 := by
  have printable := Expr.printable_fullLevels nestingLimit
  have within : nesting (Expr.fullLevels nestingLimit).print ≤ nestingLimit := by
    rw [nesting_print printable, Expr.depth_fullLevels]
  obtain ⟨path, isPath, length⟩ := Expr.exists_path_fullLevels nestingLimit
  rw [← parse_print printable within] at isPath
  exact ⟨_, path, isPath, length⟩

end Formula
end CellPreview
