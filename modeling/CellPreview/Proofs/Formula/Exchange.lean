import CellPreview.Formula.Evaluation
import CellPreview.Proofs.Formula.Reading
import Mathlib.Data.List.Forall2

/-!
# Exchanged parts

A formula may be compared with one in which some of its parts are exchanged for
others. The value of the whole can only change with the value of a part that is
exchanged, and not even then when evaluation never reaches that part. So it is
enough to look at the parts themselves: at those that are exchanged, and at the
leaves that stay when the context changes as well.

Two exchanges leave the evaluation as it is: of malformed parts, as long as none
of them is reported, and of the branches that are not taken.
-/

namespace CellPreview
namespace Formula

/-! ## Anomalies on the way -/

/-- None of some anomalies is of a given sort. -/
def Silent (reports : Anomaly -> Prop) (anomalies : List Anomaly) : Prop :=
  ∀ anomaly ∈ anomalies, ¬reports anomaly

theorem silent_append
    {reports : Anomaly -> Prop}
    {first second : List Anomaly} :
    Silent reports (first ++ second) ↔
      Silent reports first ∧ Silent reports second :=
  List.forall_mem_append

/-- The anomalies of a sum start with those of its operands. -/
theorem Evaluation.exists_anomalies_add (first second : Evaluation) :
    ∃ more, (first.add second).anomalies =
      first.anomalies ++ second.anomalies ++ more := by
  unfold add
  split
  · exact ⟨[], by simp⟩
  · exact ⟨_, rfl⟩

/-- The anomalies of a comparison start with those of its sides. -/
theorem Evaluation.exists_anomalies_compare
    (operator : Comparison)
    (first second : Evaluation) :
    ∃ more, (first.compare operator second).anomalies =
      first.anomalies ++ second.anomalies ++ more :=
  ⟨_, rfl⟩

/-! ## Agreement -/

/-- A formula in one context and a formula in another have the same value, and
the same truth as a condition, unless the first reports an anomaly of a given
sort. -/
structure AgreeUnless
    (reports : Anomaly -> Prop)
    (context changed : Context)
    (formula other : Expr) : Prop where
  eval : Silent reports (formula.eval context).anomalies ->
    other.eval changed = formula.eval context
  test : Silent reports (formula.test context).anomalies ->
    other.test changed = formula.test context

namespace AgreeUnless

variable {reports : Anomaly -> Prop} {context changed : Context}

theorem refl (formula : Expr) :
    AgreeUnless reports context context formula formula :=
  ⟨fun _ => rfl, fun _ => rfl⟩

theorem evalAll
    {parts exchanged : List Expr}
    (agree : List.Forall₂ (AgreeUnless reports context changed) parts exchanged)
    (silent : Silent reports (Expr.evalAll context parts).anomalies) :
    Expr.evalAll changed exchanged = Expr.evalAll context parts := by
  induction agree with
  | nil => rfl
  | cons part _ inductionHypothesis =>
      obtain ⟨first, rest⟩ := silent_append.mp silent
      rw [Expr.evalAll, Expr.evalAll, part.eval first,
        inductionHypothesis rest]

theorem concat
    {parts exchanged : List Expr}
    (agree : List.Forall₂ (AgreeUnless reports context changed) parts exchanged) :
    AgreeUnless reports context changed (.concat parts) (.concat exchanged) where
  eval silent := by
    rw [Expr.eval] at silent
    rw [Expr.eval, Expr.eval, evalAll agree silent]
  test _ := rfl

variable {left left' right right' : Expr}

theorem add
    (leftAgree : AgreeUnless reports context changed left left')
    (rightAgree : AgreeUnless reports context changed right right') :
    AgreeUnless reports context changed (.add left right)
      (.add left' right') where
  eval silent := by
    rw [Expr.eval] at silent
    obtain ⟨more, same⟩ :=
      (left.eval context).exists_anomalies_add (right.eval context)
    rw [same, silent_append, silent_append] at silent
    obtain ⟨⟨leftSilent, rightSilent⟩, _⟩ := silent
    rw [Expr.eval, Expr.eval, leftAgree.eval leftSilent,
      rightAgree.eval rightSilent]
  test _ := rfl

/-- A comparison is evaluated as it is tested. -/
theorem compare
    (leftAgree : AgreeUnless reports context changed left left')
    (rightAgree : AgreeUnless reports context changed right right')
    (operator : Comparison) :
    AgreeUnless reports context changed (.compare operator left right)
      (.compare operator left' right') := by
  have tested (silent : Silent reports
      ((left.eval context).compare operator (right.eval context)).anomalies) :
      (left'.eval changed).compare operator (right'.eval changed) =
        (left.eval context).compare operator (right.eval context) := by
    obtain ⟨more, same⟩ := (left.eval context).exists_anomalies_compare operator
      (right.eval context)
    rw [same, silent_append, silent_append] at silent
    obtain ⟨⟨leftSilent, rightSilent⟩, _⟩ := silent
    rw [leftAgree.eval leftSilent, rightAgree.eval rightSilent]
  constructor
  · intro silent
    rw [Expr.eval] at silent
    rw [Expr.eval, Expr.eval, tested silent]
  · intro silent
    rw [Expr.test] at silent
    rw [Expr.test, Expr.test, tested silent]

/-- The truth of the condition decides which of the branches is reached. -/
theorem choose
    {condition condition' whenTrue whenTrue' otherwise otherwise' : Expr}
    (conditionAgree : AgreeUnless reports context changed condition condition')
    (whenTrueAgree : (condition.test context).holds = true ->
      AgreeUnless reports context changed whenTrue whenTrue')
    (otherwiseAgree : (condition.test context).holds = false ->
      AgreeUnless reports context changed otherwise otherwise') :
    AgreeUnless reports context changed
      (.choose condition whenTrue otherwise)
      (.choose condition' whenTrue' otherwise') where
  eval silent := by
    rw [Expr.eval] at silent
    rw [Expr.eval, Expr.eval]
    cases holds : (condition.test context).holds with
    | true =>
        simp only [holds, if_true] at silent ⊢
        obtain ⟨conditionSilent, branchSilent⟩ := silent_append.mp silent
        simp only [conditionAgree.test conditionSilent, holds, if_true,
          (whenTrueAgree holds).eval branchSilent]
    | false =>
        simp only [holds, Bool.false_eq_true, if_false] at silent ⊢
        obtain ⟨conditionSilent, branchSilent⟩ := silent_append.mp silent
        simp only [conditionAgree.test conditionSilent, holds,
          Bool.false_eq_true, if_false,
          (otherwiseAgree holds).eval branchSilent]
  test _ := rfl

/-- A sum agrees with itself when its operands do. -/
theorem sum
    {first : Expr}
    {others : List Expr}
    (agree : ∀ operand ∈ first :: others,
      AgreeUnless reports context changed operand operand) :
    AgreeUnless reports context changed (first.sum others)
      (first.sum others) := by
  cases others with
  | nil => exact agree first List.mem_cons_self
  | cons second others =>
      obtain ⟨rfl, _, added⟩ | ⟨_, concatenated⟩ :=
        Expr.sum_cons_cases first second others
      · rw [added]
        exact (agree first (.head _)).add (agree second (.tail _ (.head _)))
      · rw [concatenated]
        exact .concat (List.forall₂_same.mpr agree)

end AgreeUnless

/-! ## Exchange -/

/-- A formula and the same formula with some of its parts exchanged, each for
one that `exchange` allows in its place. -/
inductive Exchanged (exchange : Expr -> Expr -> Prop) : Expr -> Expr -> Prop
  | part {formula other : Expr} :
      exchange formula other -> Exchanged exchange formula other
  | concat {parts others : List Expr} :
      parts.length = others.length ->
      (∀ {part other}, (part, other) ∈ parts.zip others ->
        Exchanged exchange part other) ->
      Exchanged exchange (.concat parts) (.concat others)
  | add {left left' right right' : Expr} :
      Exchanged exchange left left' ->
      Exchanged exchange right right' ->
      Exchanged exchange (.add left right) (.add left' right')
  | compare {operator : Comparison} {left left' right right' : Expr} :
      Exchanged exchange left left' ->
      Exchanged exchange right right' ->
      Exchanged exchange (.compare operator left right)
        (.compare operator left' right')
  | choose {condition condition' whenTrue whenTrue' otherwise otherwise' :
      Expr} :
      Exchanged exchange condition condition' ->
      Exchanged exchange whenTrue whenTrue' ->
      Exchanged exchange otherwise otherwise' ->
      Exchanged exchange (.choose condition whenTrue otherwise)
        (.choose condition' whenTrue' otherwise')

/-- Formulas agree when the parts that were exchanged do. -/
theorem Exchanged.agreeUnless
    {exchange : Expr -> Expr -> Prop}
    {reports : Anomaly -> Prop}
    {context changed : Context}
    (agree : ∀ formula other, exchange formula other ->
      AgreeUnless reports context changed formula other)
    {formula other : Expr}
    (exchanged : Exchanged exchange formula other) :
    AgreeUnless reports context changed formula other := by
  induction exchanged with
  | part isExchange => exact agree _ _ isExchange
  | concat sameLength _ inductionHypothesis =>
      exact .concat (List.forall₂_iff_zip.mpr ⟨sameLength, inductionHypothesis⟩)
  | add _ _ left right => exact left.add right
  | @compare operator _ _ _ _ _ _ left right => exact left.compare right operator
  | choose _ _ _ condition whenTrue otherwise =>
      exact condition.choose (fun _ => whenTrue) (fun _ => otherwise)

/-! ## Parts that evaluation does not reach -/

/-- Anomalies that report a malformed part. -/
def Anomaly.IsMalformed : Anomaly -> Prop
  | .malformed _ _ => True
  | _ => False

/-- A malformed part may be exchanged for any formula. -/
def ExchangesMalformed (formula other : Expr) : Prop :=
  formula = other ∨ formula.isInvalid = true

/-- The branch of a call that its condition does not select may be exchanged for
any formula. -/
inductive ExchangesUntaken (context : Context) : Expr -> Expr -> Prop
  | same (formula : Expr) : ExchangesUntaken context formula formula
  | whenTrue {condition whenTrue otherwise : Expr} (other : Expr) :
      (condition.test context).holds = false ->
      ExchangesUntaken context (.choose condition whenTrue otherwise)
        (.choose condition other otherwise)
  | otherwise {condition whenTrue otherwise : Expr} (other : Expr) :
      (condition.test context).holds = true ->
      ExchangesUntaken context (.choose condition whenTrue otherwise)
        (.choose condition whenTrue other)

/-- A malformed part is reported wherever it is reached. -/
theorem ExchangesMalformed.agreeUnless
    {formula other : Expr}
    (exchanges : ExchangesMalformed formula other)
    (context : Context) :
    AgreeUnless Anomaly.IsMalformed context context formula other := by
  obtain rfl | isInvalid := exchanges
  · exact .refl formula
  · cases formula with
    | invalid source cause =>
        constructor
        · intro silent
          exact absurd trivial (silent (.malformed source cause) (.head _))
        · intro silent
          exact absurd trivial (silent (.malformed source cause) (.head _))
    | _ => cases isInvalid

/-- A branch that is not taken agrees with every other. -/
theorem ExchangesUntaken.agreeUnless
    {context : Context}
    {formula other : Expr}
    (exchanges : ExchangesUntaken context formula other)
    (reports : Anomaly -> Prop) :
    AgreeUnless reports context context formula other := by
  cases exchanges with
  | same => exact .refl formula
  | whenTrue other fails =>
      refine .choose (.refl _) (fun holds => ?_) (fun _ => .refl _)
      rw [fails] at holds
      cases holds
  | otherwise other holds =>
      refine .choose (.refl _) (fun _ => .refl _) (fun fails => ?_)
      rw [holds] at fails
      cases fails

/-- Evaluation does not see what it does not reach: not the malformed parts of a
formula that reports none, and not a branch that its condition does not
select, wherever in the formula these stand. -/
theorem eval_of_unreached (context : Context) (formula other : Expr) :
    (Silent Anomaly.IsMalformed (formula.eval context).anomalies ->
      Exchanged ExchangesMalformed formula other ->
      other.eval context = formula.eval context) ∧
    (Exchanged (ExchangesUntaken context) formula other ->
      other.eval context = formula.eval context) := by
  constructor
  · intro silent exchanged
    exact (exchanged.agreeUnless fun _ _ exchanges =>
      exchanges.agreeUnless context).eval silent
  · intro exchanged
    have agree := exchanged.agreeUnless fun _ _ exchanges =>
      exchanges.agreeUnless fun _ => False
    exact agree.eval fun _ _ isReported => isReported

/-- Malformed parts of a condition that is no comparison and of the branch that
is not taken, and a branch in an operand of a sum. -/
theorem eval_of_unreached_call :
    let context : Context := ⟨['a'], 0⟩
    let malformed := Expr.invalid ['+'] .unexpectedEnd
    let condition := Expr.compare .equal .field (.text ['a'])
    (Silent Anomaly.IsMalformed
        ((Expr.choose (.concat [malformed, .now]) malformed .field).eval
          context).anomalies ∧
      Exchanged ExchangesMalformed
        (.choose (.concat [malformed, .now]) malformed .field)
        (.choose (.concat [.number ['1'], .now]) condition .field) ∧
      (Expr.choose (.concat [.number ['1'], .now]) condition .field).eval
          context =
        (Expr.choose (.concat [malformed, .now]) malformed .field).eval
          context) ∧
    Exchanged (ExchangesUntaken context)
      (.concat [.choose condition .field .now, .now])
      (.concat [.choose condition .field malformed, .now]) ∧
    (Expr.concat [.choose condition .field malformed, .now]).eval context =
      (Expr.concat [.choose condition .field .now, .now]).eval context := by
  intro context malformed condition
  constructor
  · have silent : Silent Anomaly.IsMalformed
        ((Expr.choose (.concat [malformed, .now]) malformed .field).eval
          context).anomalies := by
      intro anomaly reported
      cases reported with
      | head => exact id
      | tail _ others => cases others
    have exchanged : Exchanged ExchangesMalformed
        (.choose (.concat [malformed, .now]) malformed .field)
        (.choose (.concat [.number ['1'], .now]) condition .field) := by
      refine .choose (.concat rfl fun isPair => ?_) (.part (.inr rfl))
        (.part (.inl rfl))
      simp only [List.zip_cons_cons, List.zip_nil_right, List.mem_cons,
        Prod.mk.injEq, List.not_mem_nil, or_false] at isPair
      obtain ⟨rfl, rfl⟩ | ⟨rfl, rfl⟩ := isPair
      · exact .part (.inr rfl)
      · exact .part (.inl rfl)
    exact ⟨silent, exchanged,
      (eval_of_unreached context _ _).1 silent exchanged⟩
  · have exchanged : Exchanged (ExchangesUntaken context)
        (.concat [.choose condition .field .now, .now])
        (.concat [.choose condition .field malformed, .now]) := by
      refine .concat rfl fun isPair => ?_
      simp only [List.zip_cons_cons, List.zip_nil_right, List.mem_cons,
        Prod.mk.injEq, List.not_mem_nil, or_false] at isPair
      obtain ⟨rfl, rfl⟩ | ⟨rfl, rfl⟩ := isPair
      · exact .part (.otherwise malformed rfl)
      · exact .part (.same .now)
    exact ⟨exchanged, (eval_of_unreached context _ _).2 exchanged⟩

end Formula
end CellPreview
