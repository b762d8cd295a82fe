import CellPreview.Proofs.Formula.Reading
import Mathlib.Data.List.Forall2

/-!
# Corresponding tokens

Two runs of tokens that correspond one by one are parsed in the same way, to
formulas that correspond or to causes that do. A correspondence may exchange one
literal or reference for another, since the parsers do not tell these apart, and
it may move tokens, but it keeps every other kind.
-/

namespace CellPreview
namespace Formula

/-- Kinds that the parsers do not tell apart: equal ones, and any two that are
operands by themselves. -/
def Token.Kind.PlaysAs (kind other : Kind) : Prop :=
  kind = other ∨ (kind.atom?.isSome ∧ other.atom?.isSome)

namespace Token.Kind

theorem comparison?_of_atom?
    {kind : Kind}
    (isAtom : kind.atom?.isSome) :
    kind.comparison? = none := by
  cases kind <;> first | rfl | cases isAtom

theorem levelAfter?_of_atom?
    {kind : Kind}
    (isAtom : kind.atom?.isSome)
    (level : Nat) :
    kind.levelAfter? level = some level := by
  cases kind <;> first | rfl | cases isAtom

namespace PlaysAs

variable {kind other : Kind}

theorem comparison?_eq (plays : kind.PlaysAs other) :
    kind.comparison? = other.comparison? := by
  obtain rfl | ⟨isAtom, otherAtom⟩ := plays
  · rfl
  · rw [comparison?_of_atom? isAtom, comparison?_of_atom? otherAtom]

theorem levelAfter?_eq (plays : kind.PlaysAs other) (level : Nat) :
    kind.levelAfter? level = other.levelAfter? level := by
  obtain rfl | ⟨isAtom, otherAtom⟩ := plays
  · rfl
  · rw [levelAfter?_of_atom? isAtom, levelAfter?_of_atom? otherAtom]

/-- A kind that is no operand by itself plays as no other. -/
theorem eq_iff
    {target : Kind}
    (plays : kind.PlaysAs other)
    (notAtom : target.atom? = none) :
    kind = target ↔ other = target := by
  obtain rfl | ⟨isAtom, otherAtom⟩ := plays
  · rfl
  · constructor
    · rintro rfl
      rw [notAtom] at isAtom
      cases isAtom
    · rintro rfl
      rw [notAtom] at otherAtom
      cases otherAtom

end PlaysAs
end Token.Kind

/-- The offset that a cause points at, if it points at one. -/
def Error.offset? : Error -> Option Nat
  | .unterminatedText offset => some offset
  | .unexpected _ offset => some offset
  | .unclosed offset => some offset
  | .unknownReference _ offset => some offset
  | .unexpectedEnd | .tooFewArguments _ | .empty | .tooDeep _ => none

/-- What corresponds to what: tokens, causes of failures and formulas. -/
structure Correspondence where
  token : Token -> Token -> Prop
  cause : Error -> Error -> Prop
  value : Expr -> Expr -> Prop
  playsAs {first second : Token} :
    token first second -> first.kind.PlaysAs second.kind
  misplaced {first second : Token} :
    token first second -> cause first.misplaced second.misplaced
  unclosed {first second : Token} :
    token first second -> cause (.unclosed first.start) (.unclosed second.start)
  unknownReference {first second : Token} (name : Text) :
    token first second ->
    cause (.unknownReference name first.start)
      (.unknownReference name second.start)
  cause_refl {reason : Error} : reason.offset? = none -> cause reason reason
  atom {first second : Token} {left right : Expr} :
    token first second -> first.kind.atom? = some left ->
    second.kind.atom? = some right -> value left right
  sum {first second : Expr} {values others : List Expr} :
    value first second -> List.Forall₂ value values others ->
    value (first.sum values) (second.sum others)
  compare {left left' right right' : Expr} (operator : Comparison) :
    value left left' -> value right right' ->
    value (.compare operator left right) (.compare operator left' right')
  choose {condition condition' whenTrue whenTrue' otherwise otherwise' : Expr} :
    value condition condition' -> value whenTrue whenTrue' ->
    value otherwise otherwise' ->
    value (.choose condition whenTrue otherwise)
      (.choose condition' whenTrue' otherwise')
  invalid {tokens others : List Token} {reason other : Error} :
    List.Forall₂ token tokens others -> cause reason other ->
    value (.invalid (Token.source tokens) reason)
      (.invalid (Token.source others) other)

namespace Correspondence

open CellPreview.Formula.Parser

variable (same : Correspondence)

/-- Runs of tokens that correspond one by one. -/
abbrev Tokens : List Token -> List Token -> Prop :=
  List.Forall₂ same.token

/-- Outcomes that correspond, with the tokens that they leave. -/
inductive Outcome {α : Type} (sameValue : α -> α -> Prop) :
    Except Error (α × List Token) -> Except Error (α × List Token) -> Prop
  | ok {value other : α} {rest others : List Token} :
      sameValue value other -> same.Tokens rest others ->
      Outcome sameValue (.ok (value, rest)) (.ok (other, others))
  | error {reason other : Error} :
      same.cause reason other ->
      Outcome sameValue (.error reason) (.error other)

/-- A parser whose outcomes correspond when its tokens do. -/
def Respects {α : Type} (sameValue : α -> α -> Prop) (step : Step α) : Prop :=
  ∀ {tokens others}, same.Tokens tokens others ->
    same.Outcome sameValue (step tokens) (step others)

variable {same}

/-- Two steps correspond when the first do and the second do for corresponding
values of the first. -/
theorem Outcome.bind
    {α β : Type}
    {sameValue : α -> α -> Prop}
    {sameNext : β -> β -> Prop}
    {first second : Except Error (α × List Token)}
    {next other : α × List Token -> Except Error (β × List Token)}
    (outcome : same.Outcome sameValue first second)
    (continues : ∀ {value value' rest rest'}, sameValue value value' ->
      same.Tokens rest rest' ->
      same.Outcome sameNext (next (value, rest)) (other (value', rest'))) :
    same.Outcome sameNext (first >>= next) (second >>= other) := by
  cases outcome with
  | ok sameValues sameRests => exact continues sameValues sameRests
  | error sameCauses => exact .error sameCauses

section

variable {operand : Step Expr}

theorem respects_moreOperands
    (respects : same.Respects same.value operand)
    (count : Nat) :
    same.Respects (List.Forall₂ same.value) (moreOperands operand count) := by
  intro tokens others sameTokens
  induction count generalizing tokens others with
  | zero => exact .ok .nil sameTokens
  | succ count inductionHypothesis =>
      cases sameTokens with
      | nil => exact .ok .nil .nil
      | @cons token other tokens others sameToken sameRest =>
          rw [moreOperands, moreOperands]
          by_cases isPlus : token.kind = .plus
          · rw [if_pos isPlus,
              if_pos (((same.playsAs sameToken).eq_iff rfl).mp isPlus)]
            apply (respects sameRest).bind
            intro value value' rest rest' sameValue sameRest
            apply (inductionHypothesis sameRest).bind
            intro values values' rest rest' sameValues sameRest
            exact .ok (.cons sameValue sameValues) sameRest
          · rw [if_neg isPlus,
              if_neg (isPlus ∘ ((same.playsAs sameToken).eq_iff rfl).mpr)]
            exact .ok .nil (.cons sameToken sameRest)

theorem respects_sum (respects : same.Respects same.value operand) :
    same.Respects same.value (Parser.sum operand) := by
  intro tokens others sameTokens
  rw [Parser.sum, Parser.sum]
  apply (respects sameTokens).bind
  intro first first' rest rest' sameFirst sameRest
  dsimp only
  rw [sameRest.length_eq]
  apply (respects_moreOperands respects _ sameRest).bind
  intro values values' rest rest' sameValues sameRest
  exact .ok (same.sum sameFirst sameValues) sameRest

theorem respects_comparison (respects : same.Respects same.value operand) :
    same.Respects same.value (comparison operand) := by
  intro tokens others sameTokens
  rw [comparison, comparison]
  apply (respects_sum respects sameTokens).bind
  intro left left' rest rest' sameLeft sameRest
  cases sameRest with
  | nil => exact .ok sameLeft .nil
  | @cons token other rest rest' sameToken sameRest =>
      dsimp only
      rw [← (same.playsAs sameToken).comparison?_eq]
      cases token.kind.comparison? with
      | none => exact .ok sameLeft (.cons sameToken sameRest)
      | some operator =>
          apply (respects_sum respects sameRest).bind
          intro right right' rest rest' sameRight sameRest
          exact .ok (same.compare operator sameLeft sameRight) sameRest

/-- Corresponding tokens make corresponding fragments. -/
theorem value_fragment
    (respects : same.Respects same.value operand)
    {tokens others : List Token}
    (sameTokens : same.Tokens tokens others) :
    same.value (fragment operand tokens) (fragment operand others) := by
  have outcome := respects_comparison respects sameTokens
  unfold fragment complete
  generalize comparison operand tokens = first at outcome ⊢
  generalize comparison operand others = second at outcome ⊢
  cases sameTokens with
  | nil => exact same.invalid .nil (same.cause_refl rfl)
  | cons sameToken sameRest =>
      have sameTokens := List.Forall₂.cons sameToken sameRest
      cases outcome with
      | error sameCause => exact same.invalid sameTokens sameCause
      | ok sameValue sameOthers =>
          cases sameOthers with
          | nil => exact sameValue
          | cons sameOther _ =>
              exact same.invalid sameTokens (same.misplaced sameOther)

theorem outcome_group
    (respects : same.Respects same.value operand)
    {opening opening' : Token}
    (sameOpening : same.token opening opening')
    {tokens others : List Token}
    (sameTokens : same.Tokens tokens others) :
    same.Outcome same.value (group operand opening.start tokens)
      (group operand opening'.start others) := by
  rw [group, group]
  apply (respects_comparison respects sameTokens).bind
  intro value value' rest rest' sameValue sameRest
  cases sameRest with
  | nil => exact .error (same.unclosed sameOpening)
  | @cons token other rest rest' sameToken sameRest =>
      dsimp only
      by_cases isClosing : token.kind = .rightParen
      · rw [if_pos isClosing,
          if_pos (((same.playsAs sameToken).eq_iff rfl).mp isClosing)]
        exact .ok sameValue sameRest
      · rw [if_neg isClosing,
          if_neg (isClosing ∘ ((same.playsAs sameToken).eq_iff rfl).mpr)]
        exact .error (same.misplaced sameToken)

end

/-! ## Calls -/

theorem rel_map
    {α β γ δ : Type}
    {relation : α -> β -> Prop}
    {mapped : γ -> δ -> Prop}
    {first : Option α}
    {second : Option β}
    {onFirst : α -> γ}
    {onSecond : β -> δ}
    (related : Option.Rel relation first second)
    (maps : ∀ {left right}, relation left right ->
      mapped (onFirst left) (onSecond right)) :
    Option.Rel mapped (first.map onFirst) (second.map onSecond) := by
  cases related with
  | none => exact .none
  | some both => exact .some (maps both)

/-- Segments of a call with the tokens after it, that correspond. -/
def Segments (same : Correspondence)
    (found other : List (List Token) × List Token) : Prop :=
  List.Forall₂ same.Tokens found.1 other.1 ∧ same.Tokens found.2 other.2

theorem forall₂_pushFirst
    {token other : Token}
    (sameToken : same.token token other)
    {segments segments' : List (List Token)}
    (sameSegments : List.Forall₂ same.Tokens segments segments') :
    List.Forall₂ same.Tokens (pushFirst token segments)
      (pushFirst other segments') := by
  cases sameSegments with
  | nil => exact .cons (.cons sameToken .nil) .nil
  | cons sameFirst sameOthers =>
      exact .cons (.cons sameToken sameFirst) sameOthers

/-- Segments are cut at corresponding tokens. -/
theorem segments_segments?
    (level : Nat)
    {tokens others : List Token}
    (sameTokens : same.Tokens tokens others) :
    Option.Rel same.Segments (segments? level tokens)
      (segments? level others) := by
  induction sameTokens generalizing level with
  | nil => exact .none
  | @cons token other rest rest' sameToken sameRest inductionHypothesis =>
      have plays := same.playsAs sameToken
      cases after : token.kind.levelAfter? level with
      | some next =>
          have otherAfter := plays.levelAfter?_eq level ▸ after
          rw [segments?_cons_of_levelAfter? after,
            segments?_cons_of_levelAfter? otherAfter]
          exact rel_map (inductionHypothesis next) fun ⟨found, after⟩ =>
            ⟨forall₂_pushFirst sameToken found, after⟩
      | none =>
          obtain ⟨rfl, isComma | isClosing⟩ :=
            (Token.Kind.levelAfter?_eq_none_iff token.kind level).mp after
          · rw [segments?_cons_comma isComma,
              segments?_cons_comma ((plays.eq_iff rfl).mp isComma)]
            exact rel_map (inductionHypothesis 0) fun ⟨found, after⟩ =>
              ⟨.cons .nil found, after⟩
          · rw [segments?_cons_rightParen isClosing,
              segments?_cons_rightParen ((plays.eq_iff rfl).mp isClosing)]
            exact .some ⟨.cons .nil .nil, sameRest⟩

/-- Three runs of tokens that correspond. -/
def Arguments (same : Correspondence)
    (found other : List Token × List Token × List Token) : Prop :=
  same.Tokens found.1 other.1 ∧ same.Tokens found.2.1 other.2.1 ∧
    same.Tokens found.2.2 other.2.2

theorem respects_callArguments :
    same.Respects same.Arguments callArguments := by
  intro tokens others sameTokens
  cases sameTokens with
  | nil => exact .error (same.cause_refl rfl)
  | @cons token other rest rest' sameToken sameRest =>
      rw [callArguments, callArguments]
      by_cases isOpening : token.kind = .leftParen
      · rw [if_pos isOpening,
          if_pos (((same.playsAs sameToken).eq_iff rfl).mp isOpening),
          arguments?, arguments?]
        have sameFound := segments_segments? 0 sameRest
        generalize segments? 0 rest = found at sameFound ⊢
        generalize segments? 0 rest' = found' at sameFound ⊢
        cases sameFound with
        | none => exact .error (same.unclosed sameToken)
        | @some found found' sameFound =>
            obtain ⟨segments, after⟩ := found
            obtain ⟨segments', after'⟩ := found'
            obtain ⟨sameSegments, sameAfter⟩ := sameFound
            -- fewer than three segments are counted, with none for one
            -- that is empty
            cases sameSegments with
            | nil => exact .error (same.cause_refl rfl)
            | cons first sameSegments =>
            cases sameSegments with
            | nil =>
                cases first with
                | nil => exact .error (same.cause_refl rfl)
                | cons _ _ => exact .error (same.cause_refl rfl)
            | cons second sameSegments =>
            cases sameSegments with
            | nil =>
                simp only [Option.map_some, List.cons.injEq, reduceCtorEq,
                  and_false, if_false, List.length_cons]
                exact .error (same.cause_refl rfl)
            | cons third _ =>
                simp only [Option.map_some, List.cons.injEq, reduceCtorEq,
                  and_false, if_false]
                exact .ok ⟨first, second, third⟩ sameAfter
      · rw [if_neg isOpening,
          if_neg (isOpening ∘ ((same.playsAs sameToken).eq_iff rfl).mpr)]
        exact .error (same.misplaced sameToken)

/-! ## Operands -/

theorem primary_of_atom?
    (inner : Option (Step Expr))
    {token : Token}
    {value : Expr}
    (isAtom : token.kind.atom? = some value)
    (rest : List Token) :
    primary inner (token :: rest) = .ok (value, rest) :=
  primary_eq_ok_iff.mpr (.inl ⟨isAtom, rfl⟩)

/-- One operand corresponds when those inside it do. -/
theorem respects_primary
    {inner : Option (Step Expr)}
    (respects : ∀ operand ∈ inner, same.Respects same.value operand) :
    same.Respects same.value (primary inner) := by
  intro tokens others sameTokens
  cases sameTokens with
  | nil => exact .error (same.cause_refl rfl)
  | @cons token other rest rest' sameToken sameRest =>
      obtain sameKind | ⟨isAtom, otherAtom⟩ := same.playsAs sameToken
      · cases isAtom : token.kind.atom? with
        | some value =>
            have otherAtom := sameKind ▸ isAtom
            rw [primary_of_atom? inner isAtom, primary_of_atom? inner otherAtom]
            exact .ok (same.atom sameToken isAtom otherAtom) sameRest
        | none =>
            rw [primary.eq_def, primary.eq_def]
            dsimp only
            rw [← sameKind]
            cases kind : token.kind with
            | text | number | field | now =>
                rw [kind] at isAtom
                cases isAtom
            | reference name =>
                exact .error (same.unknownReference name sameToken)
            | leftParen =>
                cases inner with
                | none => exact .error (same.cause_refl rfl)
                | some operand =>
                    exact outcome_group (respects operand rfl) sameToken sameRest
            | word name =>
                dsimp only
                split
                · apply (respects_callArguments sameRest).bind
                  intro found found' after after' sameFound sameAfter
                  obtain ⟨condition, whenTrue, otherwise⟩ := sameFound
                  cases inner with
                  | none => exact .error (same.cause_refl rfl)
                  | some operand =>
                      have argument {run run' : List Token} :=
                        @value_fragment _ _ (respects operand rfl) run run'
                      exact .ok (same.choose (argument condition)
                        (argument whenTrue) (argument otherwise)) sameAfter
                · exact .error (same.misplaced sameToken)
            | rightParen | comma | plus | equals | atMost | atLeast | stray =>
                exact .error (same.misplaced sameToken)
      · obtain ⟨value, isAtom⟩ := Option.isSome_iff_exists.mp isAtom
        obtain ⟨value', otherAtom⟩ := Option.isSome_iff_exists.mp otherAtom
        rw [primary_of_atom? inner isAtom, primary_of_atom? inner otherAtom]
        exact .ok (same.atom sameToken isAtom otherAtom) sameRest

theorem respects_operand (levels : Nat) :
    same.Respects same.value (operand levels) := by
  induction levels with
  | zero => exact respects_primary (by simp)
  | succ levels inductionHypothesis =>
      apply respects_primary
      intro operand isOperand
      cases isOperand
      exact inductionHypothesis

/-- Corresponding tokens are parsed to corresponding formulas, with any number
of levels. -/
theorem value_parsed
    (levels : Nat)
    {tokens others : List Token}
    (sameTokens : same.Tokens tokens others) :
    same.value (fragment (operand levels) tokens)
      (fragment (operand levels) others) :=
  value_fragment (respects_operand levels) sameTokens

end Correspondence
end Formula
end CellPreview
