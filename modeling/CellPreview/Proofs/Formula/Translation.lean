import CellPreview.Proofs.Formula.Correspondence
import CellPreview.Proofs.Formula.Scanning

/-!
# Translation

A formula further on in a text is parsed as before, except that the offsets in
its causes are larger by the distance, since its tokens correspond to those it
has by itself.
-/

namespace CellPreview
namespace Formula

/-- A cause with its offset increased, if it has one. -/
def Error.shift (amount : Nat) : Error -> Error
  | .unterminatedText offset => .unterminatedText (offset + amount)
  | .unexpected found offset => .unexpected found (offset + amount)
  | .unexpectedEnd => .unexpectedEnd
  | .unclosed offset => .unclosed (offset + amount)
  | .tooFewArguments found => .tooFewArguments found
  | .unknownReference name offset => .unknownReference name (offset + amount)
  | .empty => .empty
  | .tooDeep limit => .tooDeep limit

namespace Expr

mutual

/-- A formula with the offsets of all its causes increased. -/
def shift (amount : Nat) : Expr -> Expr
  | .concat parts => .concat (shiftAll amount parts)
  | .add left right => .add (left.shift amount) (right.shift amount)
  | .compare operator left right =>
      .compare operator (left.shift amount) (right.shift amount)
  | .choose condition whenTrue otherwise =>
      .choose (condition.shift amount) (whenTrue.shift amount)
        (otherwise.shift amount)
  | .invalid source cause => .invalid source (cause.shift amount)
  | leaf => leaf

/-- Formulas with the offsets of all their causes increased. -/
def shiftAll (amount : Nat) : List Expr -> List Expr
  | [] => []
  | formula :: others => formula.shift amount :: shiftAll amount others

end

theorem shiftAll_eq_map (amount : Nat) (formulas : List Expr) :
    shiftAll amount formulas = formulas.map (shift amount) := by
  induction formulas with
  | nil => rfl
  | cons formula others inductionHypothesis =>
      rw [shiftAll, inductionHypothesis, List.map_cons]

@[simp] theorem isInteger_shift (amount : Nat) (formula : Expr) :
    (formula.shift amount).isInteger = formula.isInteger := by
  cases formula <;> rfl

theorem shift_sum (amount : Nat) (first : Expr) (others : List Expr) :
    (first.sum others).shift amount =
      (first.shift amount).sum (others.map (shift amount)) := by
  match others with
  | [] => rfl
  | [second] =>
      simp only [sum, List.map_cons, List.map_nil, isInteger_shift]
      split <;> rfl
  | second :: third :: others =>
      simp only [sum, shift, shiftAll_eq_map, List.map_cons]

end Expr

@[simp] theorem Token.source_map_shift (amount : Nat) (tokens : List Token) :
    source (tokens.map (shift amount)) = source tokens := by
  cases tokens with
  | nil => rfl
  | cons first others =>
      simp only [List.map_cons, source_cons, List.flatMap_map]
      rfl

theorem forall₂_eq_map_iff
    {α β : Type}
    {function : α -> β}
    {values : List α}
    {images : List β} :
    List.Forall₂ (function · = ·) values images ↔
      values.map function = images := by
  rw [← List.forall₂_map_left_iff, List.forall₂_eq_eq_eq]

/-- Everything corresponds to what it is some bytes further on. -/
def Correspondence.shift (amount : Nat) : Correspondence where
  token first second := first.shift amount = second
  cause reason other := reason.shift amount = other
  value formula other := formula.shift amount = other
  playsAs := by
    rintro first _ rfl
    exact .inl rfl
  misplaced := by
    rintro first _ rfl
    rfl
  unclosed := by
    rintro first _ rfl
    rfl
  unknownReference := by
    rintro first _ name rfl
    rfl
  cause_refl := by
    intro reason nowhere
    cases reason <;> first | rfl | cases nowhere
  atom := by
    rintro first _ left right rfl isLeft isRight
    rw [Token.kind_shift] at isRight
    obtain rfl := Option.some.inj (isLeft.symm.trans isRight)
    cases kind : first.kind <;> rw [kind] at isLeft <;> cases isLeft <;> rfl
  sum := by
    rintro first _ values _ rfl sameValues
    rw [Expr.shift_sum, forall₂_eq_map_iff.mp sameValues]
  compare := by
    rintro left _ right _ operator rfl rfl
    rfl
  choose := by
    rintro condition _ whenTrue _ otherwise _ rfl rfl rfl
    rfl
  invalid := by
    rintro tokens others reason _ sameTokens rfl
    rw [← forall₂_eq_map_iff.mp sameTokens, Token.source_map_shift]
    rfl

/-- A fragment that is moved keeps its source and its tree. -/
theorem fragment_map_shift (amount levels : Nat) (tokens : List Token) :
    Parser.fragment (Parser.operand levels) (tokens.map (Token.shift amount)) =
      (Parser.fragment (Parser.operand levels) tokens).shift amount :=
  ((Correspondence.shift amount).value_parsed levels
    (forall₂_eq_map_iff.mpr rfl)).symm

end Formula
end CellPreview
