import CellPreview.Proofs.Formula.Grammar
import CellPreview.Proofs.Formula.Locality
import CellPreview.Proofs.Formula.Respacing

/-!
# Operands on their own

Texts that are read as operands may be joined by plus signs. A plus sign with
blanks around it joins no tokens, and an operand is read at its place as it is
read by itself, with offsets that count from the start of the whole. So the
joined texts are read as the sum of what they are read as by themselves.
-/

namespace CellPreview
namespace Formula

open CellPreview.Formula.Parser

/-! ## Blanks around a text -/

/-- Blanks behind a text belong to no token. -/
theorem Lexer.Scans.append_blanks
    {offset : Nat}
    {text trailing : Text}
    {tokens : List Token}
    (scans : Scans offset text tokens)
    (areBlank : AreBlank trailing) :
    Scans offset (text ++ trailing) tokens := by
  induction scans with
  | blank allBlank =>
      exact .blank (List.forall_mem_append.mpr ⟨allBlank, areBlank⟩)
  | token gapBlank notBlank found _ inductionHypothesis =>
      have delimits : Delimits trailing := by
        cases trailing with
        | nil => exact delimits_nil
        | cons char others =>
            exact delimits_of_isBlank (areBlank char List.mem_cons_self) others
      have joined := Scans.token gapBlank notBlank
        (piece?_append found delimits) inductionHypothesis
      rwa [List.append_assoc, List.cons_append]

/-- Tokens with more blanks before the first of them. -/
def Token.behind (gap : Text) : List Token -> List Token
  | [] => []
  | first :: others => { first with gap := gap ++ first.gap } :: others

theorem Token.behind_append
    {gap : Text}
    {tokens : List Token}
    (nonempty : tokens ≠ [])
    (others : List Token) :
    Token.behind gap (tokens ++ others) = Token.behind gap tokens ++ others := by
  obtain ⟨first, rest, rfl⟩ := List.exists_cons_of_ne_nil nonempty
  rfl

/-- Blanks in front of a text are blanks before its first token. -/
theorem Lexer.Scans.behind_blanks
    {offset : Nat}
    {gap text : Text}
    {tokens : List Token}
    (areBlank : AreBlank gap)
    (scans : Scans (offset + gap.byteLength) text tokens) :
    Scans offset (gap ++ text) (Token.behind gap tokens) := by
  cases scans with
  | blank allBlank =>
      exact .blank (List.forall_mem_append.mpr ⟨areBlank, allBlank⟩)
  | @token _ inner rest first piece tokens innerBlank notBlank found following =>
      rw [Nat.add_assoc offset, ← Text.byteLength_append] at following
      have joined := Scans.token
        (List.forall_mem_append.mpr ⟨areBlank, innerBlank⟩) notBlank found
        following
      rw [Text.byteLength_append, ← Nat.add_assoc, List.append_assoc] at joined
      exact joined

/-! ## Operands at another place -/

namespace Parser

/-- An operand does not depend on the blanks before it. -/
theorem IsOperand.behind
    {levels : Nat}
    {tokens : List Token}
    {value : Expr}
    (isOperand : IsOperand levels tokens value)
    (gap : Text) :
    IsOperand levels (Token.behind gap tokens) value := by
  have atom {tokens : List Token} {value : Expr} (isAtom : IsAtom tokens value) :
      IsAtom (Token.behind gap tokens) value := by
    cases isAtom with
    | token isAtom => exact .token isAtom
  cases levels with
  | zero => exact atom isOperand
  | succ levels =>
      obtain isAtom | isGroup | isCall := isOperand
      · exact .atom (atom isAtom)
      · cases isGroup with
        | group isOpening isFormula isClosing =>
            exact .group (.group isOpening isFormula isClosing)
      · cases isCall with
        | call isName isOpening split =>
            exact .call (.call isName isOpening split)

/-- An operand further on in a text is read as before, with larger offsets. -/
theorem IsOperand.shift
    {levels : Nat}
    {tokens : List Token}
    {value : Expr}
    (isOperand : IsOperand levels tokens value)
    (amount : Nat) :
    IsOperand levels (tokens.map (Token.shift amount)) (value.shift amount) := by
  have found := (reads_operand levels).complete isOperand []
  rw [List.append_nil] at found
  have outcome := (Correspondence.shift amount).respects_operand levels
    (forall₂_eq_map_iff.mpr (Eq.refl (tokens.map (Token.shift amount))))
  rw [found] at outcome
  generalize shiftedEq :
    operand levels (tokens.map (Token.shift amount)) = shifted at outcome
  cases outcome with
  | @ok _ other _ _ sameValue sameRest =>
      -- no tokens are left over, so none are left over further on
      cases sameRest
      obtain ⟨used, tokensEq, isShifted⟩ := (reads_operand levels).sound shiftedEq
      have valueEq : value.shift amount = other := sameValue
      rwa [tokensEq, List.append_nil, valueEq]

end Parser

/-! ## Joined operands -/

/-- Texts that are read as one operand: a literal, a reference, a formula in
parentheses or a call, nested no deeper than a formula may be. -/
def StandsAsOperand (text : Text) : Prop :=
  ∃ tokens, tokenize text = .ok tokens ∧
    Grammar.OperandRun nestingLimit (kinds tokens)

/-- The tokens of such a text are an operand with the value of the text. -/
theorem StandsAsOperand.exists_isOperand
    {text : Text}
    (standsAsOperand : StandsAsOperand text) :
    ∃ tokens, tokenize text = .ok tokens ∧
      IsOperand nestingLimit tokens (parse text) := by
  obtain ⟨tokens, tokenized, isRun⟩ := standsAsOperand
  obtain ⟨value, isOperand⟩ := isRun.exists_isOperand rfl
  have value_eq : parse text = value := by
    rw [parse_eq_fragment tokenized,
      IsComparison.fragment_eq (.sum (.of_operand isOperand))]
  exact ⟨tokens, tokenized, value_eq ▸ isOperand⟩

/-- Operands as they are read at their places, the first of which has a given
offset. The plus sign between two of them takes three bytes with its blanks. -/
def placedOperands : Nat -> List Text -> List Expr
  | _, [] => []
  | offset, text :: others =>
      (parse text).shift offset ::
        placedOperands (offset + text.byteLength + 3) others

/-- Joined operands are scanned one by one, and the plus signs between them are
tokens of their own. -/
theorem exists_placedOperands
    {first : Text}
    {others : List Text}
    (operands : ∀ text ∈ first :: others, StandsAsOperand text)
    (offset : Nat) :
    ∃ used more,
      Lexer.Scans offset (Text.joined " + " (first :: others)) (used ++ more) ∧
      IsOperand nestingLimit used ((parse first).shift offset) ∧
      IsMore (IsOperand nestingLimit) more
        (placedOperands (offset + first.byteLength + 3) others) := by
  induction others generalizing first offset with
  | nil =>
      obtain ⟨tokens, tokenized, isOperand⟩ :=
        (operands first List.mem_cons_self).exists_isOperand
      have scans := scans_of_tokenize tokenized offset
      exact ⟨_, [], by simpa [Text.joined] using scans, isOperand.shift offset,
        .none⟩
  | cons second others inductionHypothesis =>
      obtain ⟨tokens, tokenized, isOperand⟩ :=
        (operands first List.mem_cons_self).exists_isOperand
      obtain ⟨used, more, following, isSecond, areMore⟩ :=
        @inductionHypothesis second
          (fun text present => operands text (List.mem_cons_of_mem _ present))
          (offset + first.byteLength + 3)
      -- the blank before the plus sign ends the first text, and the one behind
      -- it belongs to the first token of the second
      have blank : AreBlank [' '] := by simp [AreBlank, Text.isBlank]
      have behind := @Lexer.Scans.behind_blanks
        (offset + (first ++ [' ']).byteLength + '+'.utf8Size) [' '] _ _ blank
        (by simpa [Nat.add_assoc, Char.utf8Size] using following)
      rw [Token.behind_append ((reads_operand nestingLimit).nonempty isSecond)]
        at behind
      obtain ⟨gap, scans⟩ :=
        ((scans_of_tokenize tokenized offset).append_blanks blank).append_delimiter
          (@Lexer.delimits_cons '+' (by decide) _) rfl rfl behind
      have areOthers := @IsMore.operand (IsOperand nestingLimit)
        ⟨.plus, offset + (first ++ [' ']).byteLength, gap, ['+']⟩ _ _ _ _ rfl
        (isSecond.behind [' ']) areMore
      refine ⟨_, _, ?_, isOperand.shift offset, areOthers⟩
      rw [joined_cons_cons]
      simpa using scans

/-- Operands that are joined by plus signs are read as their sum. -/
theorem parse_joined
    {first : Text}
    {others : List Text}
    (operands : ∀ text ∈ first :: others, StandsAsOperand text) :
    parse (Text.joined " + " (first :: others)) =
      ((parse first).shift 0).sum
        (placedOperands (first.byteLength + 3) others) := by
  obtain ⟨used, more, scans, isFirst, areMore⟩ :=
    exists_placedOperands operands 0
  rw [Nat.zero_add] at areMore
  rw [parse_eq_fragment (Lexer.scan_eq_ok_iff.mpr scans),
    IsComparison.fragment_eq (.sum (.sum isFirst areMore))]

end Formula
end CellPreview
