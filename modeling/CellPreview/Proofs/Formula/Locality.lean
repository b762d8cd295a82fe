import CellPreview.Proofs.Formula.Lexing
import CellPreview.Proofs.Formula.Nesting
import CellPreview.Proofs.Formula.Translation

/-!
# Arguments on their own

The text of a call is scanned one argument at a time, since the commas between
the arguments join nothing. So each of the first three arguments has the value
that it has as a formula by itself, whatever the others are, with offsets that
count from the start of the call.
-/

namespace CellPreview
namespace Formula

open CellPreview.Formula.Parser

/-- Texts that may stand between the commas of a call which is not itself
nested: they have tokens, whose parentheses are balanced and not nested too
deep, and no comma outside of these. -/
def StandsAsArgument (text : Text) : Prop :=
  ∃ tokens, tokenize text = .ok tokens ∧ IsArgument (kinds tokens) ∧
    depth (kinds tokens) < nestingLimit

/-- The tokens of an argument are parsed in a call as they are by
themselves. -/
theorem fragment_in_call
    {text : Text}
    {tokens : List Token}
    (argument : StandsAsArgument text)
    (tokenized : tokenize text = .ok tokens)
    (offset : Nat) :
    fragment (operand (nestingLimit - 1))
        (tokens.map (Token.shift offset)) =
      (parse text).shift offset := by
  have within : depth (kinds tokens) ≤ nestingLimit - 1 := by
    obtain ⟨_, same, _, within⟩ := argument
    rw [tokenized] at same
    cases same
    omega
  rw [fragment_map_shift, parse_eq_fragment tokenized,
    ← fragment_operand_succ within]
  rfl

/-- The tokens of some texts, each of them at its place in the texts joined by
commas. -/
inductive Placed : Nat -> List Text -> List (List Token) -> Prop
  | none {offset : Nat} : Placed offset [] []
  | text {offset : Nat} {text : Text} {tokens : List Token}
      {others : List Text} {segments : List (List Token)} :
      tokenize text = .ok tokens ->
      Placed (offset + text.byteLength + 1) others segments ->
      Placed offset (text :: others)
        (tokens.map (Token.shift offset) :: segments)

theorem joined_cons_cons
    (separator first second : Text)
    (others : List Text) :
    Text.joined separator (first :: second :: others) =
      first ++ (separator ++ Text.joined separator (second :: others)) := by
  simp [Text.joined]

theorem scans_of_tokenize
    {text : Text}
    {tokens : List Token}
    (tokenized : tokenize text = .ok tokens)
    (offset : Nat) :
    Lexer.Scans offset text (tokens.map (Token.shift offset)) := by
  have scans := (Lexer.scan_eq_ok_iff.mp tokenized).shift offset
  rwa [Nat.zero_add] at scans

/-- Joined arguments are scanned one by one, and the call is split at the commas
between them. -/
theorem exists_placed
    {first : Text}
    {others : List Text}
    (arguments : ∀ text ∈ first :: others, StandsAsArgument text)
    (offset : Nat) :
    ∃ inside segments, Placed offset (first :: others) segments ∧
      Split 0 inside segments [] ∧
      Lexer.Scans offset
        (Text.joined [','] (first :: others) ++ [')']) inside := by
  induction others generalizing first offset with
  | nil =>
      obtain ⟨tokens, tokenized, isArgument, _⟩ := arguments first (by simp)
      obtain ⟨gap, scans⟩ :=
        (scans_of_tokenize tokenized offset).append_delimiter
          (@Lexer.delimits_cons ')' (by decide) []) rfl rfl (.blank (by simp))
      have split : Split 0 _ _ [] :=
        @Split.last 0 (tokens.map (Token.shift offset)) []
          ⟨.rightParen, offset + first.byteLength, gap, [')']⟩
          (by rwa [kinds_map_shift]) rfl
      exact ⟨_, _, .text tokenized .none, split, by simpa [Text.joined]⟩
  | cons second others inductionHypothesis =>
      obtain ⟨tokens, tokenized, isArgument, _⟩ := arguments first (by simp)
      obtain ⟨inside, segments, placed, split, following⟩ :=
        @inductionHypothesis second
          (fun text present => arguments text (List.mem_cons_of_mem _ present))
          (offset + first.byteLength + 1)
      obtain ⟨gap, scans⟩ :=
        (scans_of_tokenize tokenized offset).append_delimiter
          (@Lexer.delimits_cons ',' (by decide) _) rfl rfl following
      have split : Split 0 _ _ [] :=
        @Split.more 0 (tokens.map (Token.shift offset)) inside []
          ⟨.comma, offset + first.byteLength, gap, [',']⟩ segments
          (by rwa [kinds_map_shift]) rfl split
      refine ⟨_, _, .text tokenized placed, split, ?_⟩
      rw [joined_cons_cons, List.append_assoc]
      exact scans

/-- The name of a call and its opening parenthesis stand before its
arguments. -/
theorem scans_call
    {text : Text}
    {inside : List Token}
    (following : Lexer.Scans 3 text inside) :
    ∃ name opening, name.kind = .word ['i', 'f'] ∧
      opening.kind = .leftParen ∧
      Lexer.Scans 0 ("if(" ++ text) (name :: opening :: inside) := by
  have name : Lexer.Scans 0 ['i', 'f']
      [⟨.word ['i', 'f'], 0, [], ['i', 'f']⟩] :=
    @Lexer.Scans.token 0 [] ['f'] 'i' ⟨.word ['i', 'f'], ['i', 'f'], []⟩ []
      (by simp) rfl (Lexer.piece?_if Lexer.delimits_nil) (.blank (by simp))
  obtain ⟨gap, scans⟩ := name.append_delimiter
    (@Lexer.delimits_cons '(' (by decide) text) rfl rfl following
  exact ⟨_, _, rfl, rfl, scans⟩

/-- A call of `if` reads its first three arguments as they are read by
themselves, and the others not at all. -/
theorem parse_call_of_arguments
    (condition whenTrue otherwise : Text)
    (others : List Text)
    (arguments : ∀ text ∈ condition :: whenTrue :: otherwise :: others,
      StandsAsArgument text) :
    parse ("if(" ++
        (Text.joined [','] (condition :: whenTrue :: otherwise :: others) ++
          [')'])) =
      .choose ((parse condition).shift 3)
        ((parse whenTrue).shift (3 + condition.byteLength + 1))
        ((parse otherwise).shift
          (3 + condition.byteLength + 1 + whenTrue.byteLength + 1)) := by
  -- the name and the parenthesis take three bytes, and the call takes one of
  -- the levels
  obtain ⟨inside, segments, placed, split, following⟩ :=
    exists_placed arguments 3
  obtain ⟨name, opening, isName, isOpening, scans⟩ := scans_call following
  obtain _ | ⟨conditionTokenized, placed⟩ := placed
  obtain _ | ⟨whenTrueTokenized, placed⟩ := placed
  obtain _ | ⟨otherwiseTokenized, placed⟩ := placed
  have isCall := @IsCall.call (operand (nestingLimit - 1)) _ _ _ _ _ _ _
    isName isOpening split
  have isOperand : IsOperand nestingLimit _ _ := IsPrimary.call isCall
  rw [parse_eq_fragment (Lexer.scan_eq_ok_iff.mpr scans),
    IsComparison.fragment_eq (.sum (.of_operand isOperand)),
    fragment_in_call (arguments condition (by simp)) conditionTokenized,
    fragment_in_call (arguments whenTrue (by simp)) whenTrueTokenized,
    fragment_in_call (arguments otherwise (by simp)) otherwiseTokenized]

/-- Three malformed arguments, the second of them empty, before another one that
holds a comma in parentheses. -/
theorem parse_call_of_malformed_arguments :
    let arguments : List Text := [['1', '+'], [], ['(', ')'], ['(', ',', ')']]
    (∀ text ∈ arguments, StandsAsArgument text) ∧
    parse ("if(" ++ (Text.joined [','] arguments ++ [')'])) =
      .choose ((parse ['1', '+']).shift 3) ((parse []).shift 6)
        ((parse ['(', ')']).shift 7) := by
  have arguments : ∀ text ∈ [['1', '+'], [], ['(', ')'], ['(', ',', ')']],
      StandsAsArgument text := by
    intro text present
    simp only [List.mem_cons, List.not_mem_nil, or_false] at present
    obtain rfl | rfl | rfl | rfl := present
    · exact ⟨[⟨.number ['1'], 0, [], ['1']⟩, ⟨.plus, 1, [], ['+']⟩], by with_unfolding_all rfl,
        by decide, by decide⟩
    · exact ⟨[], by with_unfolding_all rfl, by decide, by decide⟩
    · exact ⟨[⟨.leftParen, 0, [], ['(']⟩, ⟨.rightParen, 1, [], [')']⟩], by with_unfolding_all rfl,
        by decide, by decide⟩
    · exact ⟨[⟨.leftParen, 0, [], ['(']⟩, ⟨.comma, 1, [], [',']⟩,
        ⟨.rightParen, 2, [], [')']⟩], by with_unfolding_all rfl, by decide, by decide⟩
  exact ⟨arguments,
    parse_call_of_arguments ['1', '+'] [] ['(', ')'] [['(', ',', ')']] arguments⟩

end Formula
end CellPreview
