import CellPreview.Formula.Token

/-!
# Levels of parentheses

The level at a place in a run of tokens is the number of parentheses open
there. A run may stand as an argument of a call when it closes exactly the
parentheses it opens and has no comma at level zero. The depth of a run is the
largest number of parentheses that it holds open at once.
-/

namespace CellPreview
namespace Formula

/-- What the tokens of a run are. -/
def kinds (tokens : List Token) : List Token.Kind :=
  tokens.map Token.kind

@[simp] theorem kinds_nil : kinds [] = [] := rfl

@[simp] theorem kinds_cons (token : Token) (tokens : List Token) :
    kinds (token :: tokens) = token.kind :: kinds tokens := rfl

@[simp] theorem kinds_append (first second : List Token) :
    kinds (first ++ second) = kinds first ++ kinds second :=
  List.map_append

theorem kinds_eq_append_iff
    {tokens : List Token}
    {first second : List Token.Kind} :
    kinds tokens = first ++ second ↔
      ∃ before after, tokens = before ++ after ∧ kinds before = first ∧
        kinds after = second :=
  List.map_eq_append_iff

theorem kinds_eq_cons_iff
    {tokens : List Token}
    {kind : Token.Kind}
    {run : List Token.Kind} :
    kinds tokens = kind :: run ↔
      ∃ token others, tokens = token :: others ∧ token.kind = kind ∧
        kinds others = run :=
  List.map_eq_cons_iff

theorem kinds_eq_singleton_iff
    {tokens : List Token}
    {kind : Token.Kind} :
    kinds tokens = [kind] ↔ ∃ token, tokens = [token] ∧ token.kind = kind :=
  List.map_eq_singleton_iff

namespace Token.Kind

/-- Level after a token. There is none after a comma or a closing parenthesis
at level zero, where an argument ends. -/
def levelAfter? (level : Nat) : Kind -> Option Nat
  | .leftParen => some (level + 1)
  | .rightParen => if level = 0 then none else some (level - 1)
  | .comma => if level = 0 then none else some level
  | _ => some level

/-- A token that ends no argument at level zero ends none further in. -/
theorem levelAfter?_add
    {kind : Kind}
    {level next : Nat}
    (after : kind.levelAfter? level = some next)
    (more : Nat) :
    kind.levelAfter? (level + more) = some (next + more) := by
  unfold levelAfter? at after ⊢
  split at after
  · simp only [Option.some.injEq] at after ⊢
    omega
  · split at after
    · cases after
    · simp only [Option.some.injEq] at after
      rw [if_neg (by omega), Option.some.injEq]
      omega
  · split at after
    · cases after
    · simp only [Option.some.injEq] at after
      rw [if_neg (by omega), Option.some.injEq]
      omega
  · simpa using after

/-- The tokens that end an argument at level zero. -/
theorem levelAfter?_eq_none_iff (kind : Kind) (level : Nat) :
    kind.levelAfter? level = none ↔
      level = 0 ∧ (kind = .comma ∨ kind = .rightParen) := by
  cases kind <;> simp [levelAfter?]

end Token.Kind

/-- Level after a run of tokens that starts at a given level. -/
def levelThrough? (level : Nat) (run : List Token.Kind) : Option Nat :=
  run.foldlM Token.Kind.levelAfter? level

@[simp] theorem levelThrough?_nil (level : Nat) :
    levelThrough? level [] = some level := rfl

theorem levelThrough?_cons
    (level : Nat)
    (kind : Token.Kind)
    (run : List Token.Kind) :
    levelThrough? level (kind :: run) =
      (kind.levelAfter? level).bind (levelThrough? · run) := rfl

theorem levelThrough?_append
    (level : Nat)
    (first second : List Token.Kind) :
    levelThrough? level (first ++ second) =
      (levelThrough? level first).bind (levelThrough? · second) :=
  List.foldlM_append

/-- A run that passes a level passes the same way further in. -/
theorem levelThrough?_add
    {level last : Nat}
    {run : List Token.Kind}
    (through : levelThrough? level run = some last)
    (more : Nat) :
    levelThrough? (level + more) run = some (last + more) := by
  induction run generalizing level with
  | nil =>
      simp only [levelThrough?_nil, Option.some.injEq] at through ⊢
      omega
  | cons kind run inductionHypothesis =>
      rw [levelThrough?_cons] at through ⊢
      obtain ⟨next, after, through⟩ := Option.bind_eq_some_iff.mp through
      rw [Token.Kind.levelAfter?_add after]
      exact inductionHypothesis through

/-- Runs that may stand as an argument: their parentheses are balanced and no
comma is outside of them. -/
def IsArgument (run : List Token.Kind) : Prop :=
  levelThrough? 0 run = some 0

instance (run : List Token.Kind) : Decidable (IsArgument run) :=
  inferInstanceAs (Decidable (_ = _))

namespace IsArgument

theorem nil : IsArgument [] := rfl

/-- One token that is neither a parenthesis nor a comma. -/
theorem single
    {kind : Token.Kind}
    (after : kind.levelAfter? 0 = some 0) :
    IsArgument [kind] := by
  rw [IsArgument, levelThrough?_cons, after]
  rfl

theorem append
    {first second : List Token.Kind}
    (firstArgument : IsArgument first)
    (secondArgument : IsArgument second) :
    IsArgument (first ++ second) := by
  rw [IsArgument, levelThrough?_append, firstArgument]
  exact secondArgument

/-- Two arguments with one harmless token between them. -/
theorem append_cons
    {first second : List Token.Kind}
    {kind : Token.Kind}
    (firstArgument : IsArgument first)
    (after : kind.levelAfter? 0 = some 0)
    (secondArgument : IsArgument second) :
    IsArgument (first ++ kind :: second) :=
  firstArgument.append ((single after).append secondArgument)

/-- Any run that returns to the level it starts from may stand in
parentheses, commas included. -/
theorem parenthesized
    {run : List Token.Kind}
    (through : levelThrough? 1 run = some 1) :
    IsArgument (.leftParen :: run ++ [.rightParen]) := by
  rw [List.cons_append, IsArgument, levelThrough?_cons]
  simp only [Token.Kind.levelAfter?, Option.bind_some, levelThrough?_append,
    Nat.zero_add, through]
  rfl

theorem levelThrough?_eq
    {run : List Token.Kind}
    (argument : IsArgument run)
    (level : Nat) :
    levelThrough? level run = some level := by
  have through := levelThrough?_add argument level
  rwa [Nat.zero_add] at through

end IsArgument

/-- The largest number of parentheses that a run holds open at once. -/
def depth : List Token.Kind -> Nat
  | [] => 0
  | .leftParen :: run => depth run + 1
  | .rightParen :: run => depth run - 1
  | _ :: run => depth run

@[simp] theorem depth_nil : depth [] = 0 := rfl

@[simp] theorem depth_leftParen (run : List Token.Kind) :
    depth (.leftParen :: run) = depth run + 1 := rfl

@[simp] theorem depth_rightParen (run : List Token.Kind) :
    depth (.rightParen :: run) = depth run - 1 := rfl

/-- A token other than a parenthesis opens and closes nothing. -/
theorem depth_cons
    {kind : Token.Kind}
    (notLeft : kind ≠ .leftParen)
    (notRight : kind ≠ .rightParen)
    (run : List Token.Kind) :
    depth (kind :: run) = depth run := by
  cases kind <;> first | rfl | contradiction

/-- What follows a run that ends at level zero starts as many levels further
out as the run started in. -/
theorem depth_append_of_levelThrough?
    {level : Nat}
    {first : List Token.Kind}
    (through : levelThrough? level first = some 0)
    (second : List Token.Kind) :
    depth (first ++ second) = max (depth first) (depth second - level) := by
  induction first generalizing level with
  | nil =>
      simp only [levelThrough?_nil, Option.some.injEq] at through
      simp [through]
  | cons kind first inductionHypothesis =>
      rw [levelThrough?_cons] at through
      obtain ⟨next, after, through⟩ := Option.bind_eq_some_iff.mp through
      have tailDepth := inductionHypothesis through
      cases kind with
      | leftParen =>
          simp only [Token.Kind.levelAfter?, Option.some.injEq] at after
          simp only [List.cons_append, depth_leftParen, tailDepth]
          omega
      | rightParen =>
          simp only [Token.Kind.levelAfter?] at after
          split at after
          · cases after
          · simp only [Option.some.injEq] at after
            simp only [List.cons_append, depth_rightParen, tailDepth]
            omega
      | comma =>
          simp only [Token.Kind.levelAfter?] at after
          split at after
          · cases after
          · cases after
            exact tailDepth
      | text | number | field | now | reference | word | plus | equals |
          atMost | atLeast | stray =>
          cases after
          exact tailDepth

/-- The depth of two runs, the first of which is balanced. -/
theorem IsArgument.depth_append
    {first : List Token.Kind}
    (argument : IsArgument first)
    (second : List Token.Kind) :
    depth (first ++ second) = max (depth first) (depth second) :=
  depth_append_of_levelThrough? argument second

/-- Parentheses around a balanced run add one level. -/
theorem IsArgument.depth_parenthesized
    {run : List Token.Kind}
    (argument : IsArgument run) :
    depth (.leftParen :: run ++ [.rightParen]) = depth run + 1 := by
  rw [List.cons_append, depth_leftParen, argument.depth_append]
  simp

end Formula
end CellPreview
