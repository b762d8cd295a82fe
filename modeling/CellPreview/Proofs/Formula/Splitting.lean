import CellPreview.Formula.Arguments
import CellPreview.Proofs.Formula.Levels

/-!
# Splitting a call into arguments

The segments that are found for a call are described without the search: each
of them returns to level zero, the first from the level where the search starts,
a comma stands between neighbours, and a closing parenthesis stands after the
last. The search finds segments exactly where the description holds of them.
-/

namespace CellPreview
namespace Formula

/-- Segments between commas, up to a closing parenthesis, and what follows
it. The first segment starts at a given level. -/
inductive Split : Nat -> List Token -> List (List Token) -> List Token -> Prop
  | last {level : Nat} {segment after : List Token} {closing : Token} :
      levelThrough? level (kinds segment) = some 0 ->
      closing.kind = .rightParen ->
      Split level (segment ++ closing :: after) [segment] after
  | more {level : Nat} {segment rest after : List Token} {comma : Token}
      {others : List (List Token)} :
      levelThrough? level (kinds segment) = some 0 ->
      comma.kind = .comma ->
      Split 0 rest others after ->
      Split level (segment ++ comma :: rest) (segment :: others) after

/-- Put a run of tokens in front of the first of some segments. -/
def prependFirst (run : List Token) (segments : List (List Token)) :
    List (List Token) :=
  run.foldr pushFirst segments

theorem prependFirst_cons
    (run segment : List Token)
    (others : List (List Token)) :
    prependFirst run (segment :: others) = (run ++ segment) :: others := by
  induction run with
  | nil => rfl
  | cons token run inductionHypothesis =>
      simp only [prependFirst, List.foldr_cons] at inductionHypothesis ⊢
      rw [inductionHypothesis]
      rfl

/-- A token that ends no argument goes to the first segment. -/
theorem segments?_cons_of_levelAfter?
    {level next : Nat}
    {token : Token}
    (after : token.kind.levelAfter? level = some next)
    (rest : List Token) :
    segments? level (token :: rest) =
      (segments? next rest).map fun (segments, remaining) =>
        (pushFirst token segments, remaining) := by
  conv => lhs; unfold segments?
  cases kind : token.kind <;> cases level <;>
    simp [kind, Token.Kind.levelAfter?] at after <;> subst after <;> rfl

/-- A comma at level zero starts a new segment. -/
theorem segments?_cons_comma
    {token : Token}
    (comma : token.kind = .comma)
    (rest : List Token) :
    segments? 0 (token :: rest) =
      (segments? 0 rest).map fun (segments, remaining) =>
        ([] :: segments, remaining) := by
  conv => lhs; unfold segments?
  simp only [comma]

/-- A closing parenthesis at level zero ends the call. -/
theorem segments?_cons_rightParen
    {token : Token}
    (closing : token.kind = .rightParen)
    (rest : List Token) :
    segments? 0 (token :: rest) = some ([[]], rest) := by
  unfold segments?
  simp only [closing]

/-- A run that returns to level zero goes to the first segment as a whole. -/
theorem segments?_append
    {level : Nat}
    {run : List Token}
    (through : levelThrough? level (kinds run) = some 0)
    (rest : List Token) :
    segments? level (run ++ rest) =
      (segments? 0 rest).map fun (segments, remaining) =>
        (prependFirst run segments, remaining) := by
  induction run generalizing level with
  | nil =>
      simp only [kinds_nil, levelThrough?_nil, Option.some.injEq] at through
      simp [through, prependFirst]
  | cons token run inductionHypothesis =>
      rw [kinds_cons, levelThrough?_cons] at through
      obtain ⟨next, after, through⟩ := Option.bind_eq_some_iff.mp through
      rw [List.cons_append, segments?_cons_of_levelAfter? after,
        inductionHypothesis through, Option.map_map]
      rfl

namespace Split

/-- A token that ends no argument extends the first segment. -/
theorem cons
    {level next : Nat}
    {token : Token}
    {rest remaining : List Token}
    {segments : List (List Token)}
    (split : Split next rest segments remaining)
    (after : token.kind.levelAfter? level = some next) :
    Split level (token :: rest) (pushFirst token segments) remaining := by
  have through {segment : List Token}
      (through : levelThrough? next (kinds segment) = some 0) :
      levelThrough? level (kinds (token :: segment)) = some 0 := by
    rw [kinds_cons, levelThrough?_cons, after]
    exact through
  cases split with
  | last segmentThrough closing =>
      exact .last (through segmentThrough) closing
  | more segmentThrough comma others =>
      exact .more (through segmentThrough) comma others

/-- The search finds the segments that the description allows. -/
theorem segments?_eq
    {level : Nat}
    {tokens remaining : List Token}
    {segments : List (List Token)}
    (split : Split level tokens segments remaining) :
    segments? level tokens = some (segments, remaining) := by
  induction split with
  | last through closing =>
      rw [segments?_append through, segments?_cons_rightParen closing]
      simp [prependFirst_cons]
  | more through comma _ inductionHypothesis =>
      rw [segments?_append through, segments?_cons_comma comma,
        inductionHypothesis]
      simp [prependFirst_cons]

/-- What the search finds is described correctly. -/
theorem of_segments?
    {level : Nat}
    {tokens remaining : List Token}
    {segments : List (List Token)}
    (found : segments? level tokens = some (segments, remaining)) :
    Split level tokens segments remaining := by
  induction tokens generalizing level segments with
  | nil => simp [segments?] at found
  | cons token rest inductionHypothesis =>
      cases after : token.kind.levelAfter? level with
      | some next =>
          rw [segments?_cons_of_levelAfter? after,
            Option.map_eq_some_iff] at found
          obtain ⟨⟨inner, _⟩, innerFound, pushed⟩ := found
          cases pushed
          exact (inductionHypothesis innerFound).cons after
      | none =>
          obtain ⟨rfl, comma | closing⟩ :=
            (Token.Kind.levelAfter?_eq_none_iff token.kind level).mp after
          · rw [segments?_cons_comma comma, Option.map_eq_some_iff] at found
            obtain ⟨⟨inner, _⟩, innerFound, pushed⟩ := found
            cases pushed
            exact @Split.more 0 [] _ _ _ _ rfl comma
              (inductionHypothesis innerFound)
          · rw [segments?_cons_rightParen closing] at found
            cases found
            exact @Split.last 0 [] _ _ rfl closing

end Split

/-- Segments are found exactly where the description holds of them. -/
theorem segments?_eq_some_iff
    {level : Nat}
    {tokens remaining : List Token}
    {segments : List (List Token)} :
    segments? level tokens = some (segments, remaining) ↔
      Split level tokens segments remaining :=
  ⟨.of_segments?, Split.segments?_eq⟩

namespace Split

/-- A balanced run extends the first segment. -/
theorem prepend
    {run segment rest remaining : List Token}
    {others : List (List Token)}
    (split : Split 0 rest (segment :: others) remaining)
    (argument : IsArgument (kinds run)) :
    Split 0 (run ++ rest) ((run ++ segment) :: others) remaining := by
  have through (segmentThrough : levelThrough? 0 (kinds segment) = some 0) :
      levelThrough? 0 (kinds (run ++ segment)) = some 0 := by
    rw [kinds_append]
    exact argument.append segmentThrough
  cases split with
  | last segmentThrough isClosing =>
      rw [← List.append_assoc]
      exact .last (through segmentThrough) isClosing
  | more segmentThrough isComma split =>
      rw [← List.append_assoc]
      exact .more (through segmentThrough) isComma split

/-- The delimiter behind the first segment starts an empty one. -/
theorem exists_rest
    {level : Nat}
    {tokens segment remaining : List Token}
    {others : List (List Token)}
    (split : Split level tokens (segment :: others) remaining) :
    ∃ rest, tokens = segment ++ rest ∧
      Split 0 rest ([] :: others) remaining := by
  cases split with
  | @last _ _ _ closing _ isClosing =>
      exact ⟨closing :: remaining, rfl, @last 0 [] remaining closing rfl isClosing⟩
  | @more _ _ rest _ comma _ _ isComma split =>
      exact ⟨comma :: rest, rfl, @more 0 [] rest remaining comma others rfl isComma
        split⟩

/-- What follows the call has no influence on its segments. -/
theorem append
    {level : Nat}
    {tokens remaining : List Token}
    {segments : List (List Token)}
    (split : Split level tokens segments remaining)
    (more : List Token) :
    Split level (tokens ++ more) segments (remaining ++ more) := by
  induction split with
  | last through closing =>
      rw [List.append_assoc]
      exact .last through closing
  | more through comma _ inductionHypothesis =>
      rw [List.append_assoc]
      exact .more through comma inductionHypothesis

/-- The tokens of a call end with its closing parenthesis. -/
theorem exists_call
    {level : Nat}
    {tokens remaining : List Token}
    {segments : List (List Token)}
    (split : Split level tokens segments remaining) :
    ∃ inside, tokens = inside ++ remaining ∧ Split level inside segments [] := by
  induction split with
  | @last level segment after closing through isClosing =>
      exact ⟨segment ++ [closing], by simp, .last through isClosing⟩
  | @more level segment rest after comma others through isComma _
      inductionHypothesis =>
      obtain ⟨inside, rfl, insideSplit⟩ := inductionHypothesis
      exact ⟨segment ++ comma :: inside, by simp,
        .more through isComma insideSplit⟩

/-- The segments of a call are balanced, and all of them together end one
level further out. -/
theorem levelThrough?_eq
    {level : Nat}
    {inside : List Token}
    {segments : List (List Token)}
    (split : Split level inside segments []) :
    levelThrough? (level + 1) (kinds inside) = some 0 := by
  generalize none : ([] : List Token) = remaining at split
  induction split with
  | last through isClosing =>
      subst none
      rw [kinds_append, levelThrough?_append, levelThrough?_add through]
      simp [levelThrough?_cons, isClosing, Token.Kind.levelAfter?]
  | more through isComma _ inductionHypothesis =>
      rw [kinds_append, levelThrough?_append, levelThrough?_add through]
      simpa [levelThrough?_cons, isComma, Token.Kind.levelAfter?] using
        inductionHypothesis none

/-- No segment is deeper than the call. -/
theorem depth_le
    {level : Nat}
    {tokens remaining : List Token}
    {segments : List (List Token)}
    (split : Split level tokens segments remaining) :
    ∀ segment ∈ segments,
      depth (kinds segment) ≤ depth (kinds tokens) + level := by
  induction split with
  | last through _ =>
      intro segment present
      rw [List.mem_singleton] at present
      rw [present, kinds_append, depth_append_of_levelThrough? through]
      omega
  | more through isComma _ inductionHypothesis =>
      intro segment present
      rw [kinds_append, depth_append_of_levelThrough? through, kinds_cons,
        isComma, depth_cons (by simp) (by simp)]
      obtain rfl | present := List.mem_cons.mp present
      · omega
      · have bound := inductionHypothesis segment present
        omega

/-- The tokens of a segment are tokens of the call. -/
theorem mem
    {level : Nat}
    {tokens remaining : List Token}
    {segments : List (List Token)}
    (split : Split level tokens segments remaining) :
    ∀ segment ∈ segments, ∀ token ∈ segment, token ∈ tokens := by
  induction split with
  | last _ _ =>
      intro segment present token inside
      rw [List.mem_singleton] at present
      subst present
      exact List.mem_append_left _ inside
  | more _ _ _ inductionHypothesis =>
      intro segment present token inside
      obtain rfl | present := List.mem_cons.mp present
      · exact List.mem_append_left _ inside
      · have listed := inductionHypothesis segment present token inside
        exact List.mem_append_right _ (List.mem_cons_of_mem _ listed)

/-- The segments after the first are arguments, and so is the first of a call
that starts at level zero. -/
theorem isArgument
    {tokens remaining : List Token}
    {segments : List (List Token)}
    (split : Split 0 tokens segments remaining) :
    ∀ segment ∈ segments, IsArgument (kinds segment) := by
  generalize zero : 0 = level at split
  induction split with
  | last through _ =>
      intro segment present
      rw [List.mem_singleton] at present
      subst zero present
      exact through
  | more through _ _ inductionHypothesis =>
      intro segment present
      obtain rfl | present := List.mem_cons.mp present
      · subst zero
        exact through
      · exact inductionHypothesis rfl segment present

end Split

/-- A call whose parentheses are all closed behind it has segments. -/
theorem exists_segments?_eq_some
    {level outside : Nat}
    {tokens : List Token}
    (through : levelThrough? (level + (outside + 1)) (kinds tokens) = some 0) :
    ∃ found, segments? level tokens = some found := by
  induction tokens generalizing level with
  | nil => simp [← Nat.add_assoc] at through
  | cons token rest inductionHypothesis =>
      rw [kinds_cons, levelThrough?_cons] at through
      obtain ⟨next, after, through⟩ := Option.bind_eq_some_iff.mp through
      cases stays : token.kind.levelAfter? level with
      | some inner =>
          rw [Token.Kind.levelAfter?_add stays] at after
          cases after
          obtain ⟨found, restFound⟩ := inductionHypothesis through
          rw [segments?_cons_of_levelAfter? stays, restFound]
          exact ⟨_, rfl⟩
      | none =>
          obtain ⟨rfl, isComma | isClosing⟩ :=
            (Token.Kind.levelAfter?_eq_none_iff token.kind level).mp stays
          · rw [isComma, Token.Kind.levelAfter?, if_neg (by omega)] at after
            cases after
            obtain ⟨found, restFound⟩ := inductionHypothesis through
            rw [segments?_cons_comma isComma, restFound]
            exact ⟨_, rfl⟩
          · exact ⟨_, segments?_cons_rightParen isClosing rest⟩

/-! ## Joining -/

/-- The segments of a call, joined by commas, are what stands before its
closing parenthesis. -/
theorem kinds_eq_of_split
    {level : Nat}
    {inside : List Token}
    {segments : List (List Token)}
    (split : Split level inside segments []) :
    kinds inside =
      [Token.Kind.comma].intercalate (segments.map kinds) ++
        [.rightParen] := by
  generalize none : ([] : List Token) = remaining at split
  induction split with
  | last _ isClosing =>
      subst none
      simp [isClosing]
  | @more _ segment rest _ comma others _ isComma split inductionHypothesis =>
      have inside := inductionHypothesis none
      cases split <;> simp_all [List.intercalate]

/-- Balanced runs between commas are the segments of a call. -/
theorem exists_split_of_kinds_eq
    {arguments : List (List Token.Kind)}
    (nonempty : arguments ≠ [])
    (balanced : ∀ argument ∈ arguments, IsArgument argument)
    {inside : List Token}
    (same : kinds inside =
      [Token.Kind.comma].intercalate arguments ++ [.rightParen]) :
    ∃ segments, segments.map kinds = arguments ∧ Split 0 inside segments [] := by
  induction arguments generalizing inside with
  | nil => contradiction
  | cons argument others inductionHypothesis =>
      have argumentBalanced := balanced argument (by simp)
      cases others with
      | nil =>
          simp only [List.intercalate, List.intersperse_singleton,
            List.flatten_singleton] at same
          obtain ⟨segment, _, rfl, rfl, last⟩ := kinds_eq_append_iff.mp same
          obtain ⟨closing, rfl, isClosing⟩ := kinds_eq_singleton_iff.mp last
          exact ⟨[segment], rfl, .last argumentBalanced isClosing⟩
      | cons next others =>
          have same : kinds inside = argument ++ .comma ::
              ([Token.Kind.comma].intercalate (next :: others) ++
                [.rightParen]) := by
            simpa [List.intercalate] using same
          obtain ⟨segment, _, rfl, rfl, remaining⟩ :=
            kinds_eq_append_iff.mp same
          obtain ⟨comma, rest, rfl, isComma, restSame⟩ :=
            kinds_eq_cons_iff.mp remaining
          obtain ⟨segments, segmentsSame, split⟩ := inductionHypothesis
            (by simp)
            (fun other present => balanced other (List.mem_cons_of_mem _ present))
            restSame
          exact ⟨segment :: segments, by rw [List.map_cons, segmentsSame],
            .more argumentBalanced isComma split⟩

end Formula
end CellPreview
