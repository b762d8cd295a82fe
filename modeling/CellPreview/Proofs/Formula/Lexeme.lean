import CellPreview.Proofs.Formula.Scanning
import CellPreview.Proofs.Text.Blank

/-!
# Lexemes

How tokens of each kind are spelled. The characters of a token determine its
kind, and a token neither starts nor ends with a blank.
-/

namespace CellPreview
namespace Formula

/-- The two characters that enclose a text literal. -/
def IsQuote (char : Char) : Prop :=
  char = '\'' ∨ char = '"'

/-- Digits, with an optional minus sign before them and an optional fraction
behind them. -/
inductive IsNumeral : Text -> Prop
  | numeral {sign whole fraction : Text} :
      sign = [] ∨ sign = ['-'] ->
      whole ≠ [] ->
      (∀ char ∈ whole, char.isDigit) ->
      fraction = [] ∨ (∃ digits, fraction = '.' :: digits ∧ digits ≠ [] ∧
        ∀ char ∈ digits, char.isDigit) ->
      IsNumeral (sign ++ whole ++ fraction)

/-- The numeral of an integer consists of digits after an optional sign. -/
theorem exists_digits_ofInt (number : Int) :
    ∃ sign digits, Text.ofInt number = sign ++ digits ∧
      (sign = [] ∨ sign = ['-']) ∧ digits ≠ [] ∧
      ∀ char ∈ digits, char.isDigit := by
  have areDigits (number : Nat) : ∀ char ∈ Text.ofNat number, char.isDigit :=
    fun _ present => Nat.isDigit_of_mem_toDigits (by decide) (by decide) present
  cases number with
  | ofNat number =>
      exact ⟨[], Text.ofNat number, rfl, .inl rfl, Nat.toDigits_ne_nil,
        areDigits number⟩
  | negSucc number =>
      exact ⟨['-'], Text.ofNat (number + 1), rfl, .inr rfl,
        Nat.toDigits_ne_nil, areDigits (number + 1)⟩

theorem isNumeral_ofInt (number : Int) : IsNumeral (Text.ofInt number) := by
  obtain ⟨sign, digits, same, signCases, nonempty, areDigits⟩ :=
    exists_digits_ofInt number
  have isNumeral := @IsNumeral.numeral sign digits [] signCases nonempty
    areDigits (.inl rfl)
  rwa [List.append_nil, ← same] at isNumeral

/-- Kinds of tokens with the characters that they are read from. -/
inductive Token.Kind.Spelled : Kind -> Text -> Prop
  | text {quote : Char} {content : Text} :
      IsQuote quote -> quote ∉ content ->
      Spelled (.text content) (quote :: content ++ [quote])
  | number {numeral : Text} :
      IsNumeral numeral -> Spelled (.number numeral) numeral
  | field : Spelled .field ('@' :: fieldName)
  | now : Spelled .now ('@' :: nowName)
  | reference {name : Text} :
      (∀ char ∈ name, Text.isWordPart char) ->
      name ≠ fieldName -> name ≠ nowName ->
      Spelled (.reference name) ('@' :: name)
  | word {first : Char} {rest : Text} :
      Text.isWordStart first -> (∀ char ∈ rest, Text.isWordPart char) ->
      Spelled (.word (first :: rest)) (first :: rest)
  | leftParen : Spelled .leftParen ['(']
  | rightParen : Spelled .rightParen [')']
  | comma : Spelled .comma [',']
  | plus : Spelled .plus ['+']
  | equals : Spelled .equals ['=', '=']
  | atMost : Spelled .atMost ['<', '=']
  | atLeast : Spelled .atLeast ['>', '=']
  | stray {char : Char} :
      Text.isBlank char = false -> Spelled (.stray char) [char]

/-- Tokens with the characters that their kinds are read from. -/
def AllSpelled (tokens : List Token) : Prop :=
  ∀ token ∈ tokens, token.kind.Spelled token.lexeme

theorem allSpelled_append
    {first second : List Token} :
    AllSpelled (first ++ second) ↔ AllSpelled first ∧ AllSpelled second :=
  List.forall_mem_append

theorem allSpelled_cons
    {token : Token}
    {tokens : List Token} :
    AllSpelled (token :: tokens) ↔
      token.kind.Spelled token.lexeme ∧ AllSpelled tokens :=
  List.forall_mem_cons

namespace Lexer

theorem spelled_textPiece?
    {quote : Char}
    {rest : Text}
    {piece : Piece}
    (isQuote : IsQuote quote)
    (found : textPiece? quote rest = some piece) :
    piece.kind.Spelled piece.lexeme := by
  unfold textPiece? at found
  dsimp only at found
  split at found
  · cases found
  · rename_i closing others dropped
    cases found
    have isClosing : closing = quote := by
      simpa using Text.eq_false_of_dropWhile_eq_cons dropped
    subst isClosing
    refine .text isQuote fun present => ?_
    have other := List.mem_takeWhile_imp present
    simp at other

theorem isDigit_of_startsWithDigit
    {text : Text}
    (starts : startsWithDigit text) :
    text.takeWhile Char.isDigit ≠ [] := by
  cases text with
  | nil => cases starts
  | cons char text =>
      have isDigit : char.isDigit := starts
      simp [isDigit]

theorem fraction_cases (text : Text) :
    fraction text = [] ∨ ∃ digits, fraction text = '.' :: digits ∧
      digits ≠ [] ∧ ∀ char ∈ digits, char.isDigit := by
  unfold fraction
  split
  · rename_i rest
    split
    · rename_i starts
      exact .inr ⟨_, rfl, isDigit_of_startsWithDigit starts,
        fun char present => List.mem_takeWhile_imp present⟩
    · exact .inl rfl
  · exact .inl rfl

theorem isNumeral_numberPiece
    {first : Char}
    {rest : Text}
    (starts : first.isDigit || (first = '-' && startsWithDigit rest)) :
    IsNumeral (numberPiece first rest).lexeme := by
  have digits : ∀ char ∈ rest.takeWhile Char.isDigit, char.isDigit :=
    fun char present => List.mem_takeWhile_imp present
  by_cases isDigit : first.isDigit
  · refine @IsNumeral.numeral [] (first :: rest.takeWhile Char.isDigit) _
      (.inl rfl) (by simp) ?_ (fraction_cases _)
    intro char present
    obtain rfl | present := List.mem_cons.mp present
    · exact isDigit
    · exact digits char present
  · simp only [isDigit, Bool.false_or, Bool.and_eq_true,
      decide_eq_true_eq] at starts
    obtain ⟨rfl, starts⟩ := starts
    exact @IsNumeral.numeral ['-'] (rest.takeWhile Char.isDigit) _ (.inr rfl)
      (isDigit_of_startsWithDigit starts) digits (fraction_cases _)

theorem spelled_referencePiece (rest : Text) :
    (referencePiece rest).kind.Spelled (referencePiece rest).lexeme := by
  simp only [referencePiece, referenceKind]
  split
  · rename_i isField
    rw [isField]
    exact .field
  · split
    · rename_i isNow
      rw [isNow]
      exact .now
    · exact .reference (fun char present => List.mem_takeWhile_imp present)
        ‹_› ‹_›

theorem spelled_comparisonPiece
    {kind : Token.Kind}
    {first : Char}
    (notBlank : Text.isBlank first = false)
    (spelled : kind.Spelled [first, '='])
    (rest : Text) :
    (comparisonPiece kind first rest).kind.Spelled
      (comparisonPiece kind first rest).lexeme := by
  unfold comparisonPiece
  split
  · exact spelled
  · exact .stray notBlank

/-- Every token is spelled as its kind says. -/
theorem spelled_piece?
    {first : Char}
    {rest : Text}
    {piece : Piece}
    (notBlank : Text.isBlank first = false)
    (found : piece? first rest = some piece) :
    piece.kind.Spelled piece.lexeme := by
  unfold piece? at found
  split at found
  · rename_i isQuote
    simp only [Bool.or_eq_true, decide_eq_true_eq] at isQuote
    exact spelled_textPiece? isQuote found
  · split at found
    · cases found
      exact .number (isNumeral_numberPiece ‹_›)
    · split at found
      · cases found
        exact spelled_referencePiece rest
      · split at found
        · cases found
          exact .word ‹_› fun char present => List.mem_takeWhile_imp present
        · cases found
          split
          · exact .leftParen
          · exact .rightParen
          · exact .comma
          · exact .plus
          · exact spelled_comparisonPiece notBlank .equals rest
          · exact spelled_comparisonPiece notBlank .atMost rest
          · exact spelled_comparisonPiece notBlank .atLeast rest
          · exact .stray notBlank

/-- Nothing but a quote that does not occur again starts no token. -/
theorem isQuote_of_piece?_eq_none
    {first : Char}
    {rest : Text}
    (absent : piece? first rest = none) :
    IsQuote first ∧ first ∉ rest := by
  unfold piece? at absent
  split at absent
  · rename_i isQuote
    simp only [Bool.or_eq_true, decide_eq_true_eq] at isQuote
    exact ⟨isQuote, notMem_of_textPiece?_eq_none absent⟩
  · split at absent
    · cases absent
    · split at absent
      · cases absent
      · split at absent <;> cases absent

theorem Scans.spelled
    {offset : Nat}
    {text : Text}
    {tokens : List Token}
    (scans : Scans offset text tokens) :
    ∀ token ∈ tokens, token.kind.Spelled token.lexeme := by
  induction scans with
  | blank _ => simp
  | token _ notBlank found _ inductionHypothesis =>
      intro token present
      obtain rfl | present := List.mem_cons.mp present
      · exact spelled_piece? notBlank found
      · exact inductionHypothesis token present

end Lexer

theorem IsQuote.isBlank_eq_false
    {quote : Char}
    (isQuote : IsQuote quote) :
    Text.isBlank quote = false := by
  obtain rfl | rfl := isQuote <;> rfl

theorem IsNumeral.endsInInk
    {numeral : Text}
    (isNumeral : IsNumeral numeral) :
    Text.EndsInInk numeral := by
  have endsInInk {digits : Text}
      (nonempty : digits ≠ [])
      (areDigits : ∀ char ∈ digits, char.isDigit) :
      Text.EndsInInk digits :=
    Text.endsInInk_of_forall nonempty fun char present =>
      Text.isBlank_eq_false_of_isDigit (areDigits char present)
  cases isNumeral with
  | numeral _ nonempty areDigits fractionCases =>
      obtain rfl | ⟨digits, rfl, digitsNonempty, digitsAreDigits⟩ :=
        fractionCases
      · rw [List.append_nil]
        exact (endsInInk nonempty areDigits).append _
      · rw [← List.singleton_append, ← List.append_assoc]
        exact (endsInInk digitsNonempty digitsAreDigits).append _

/-- No token ends with a blank. -/
theorem Token.Kind.Spelled.endsInInk
    {kind : Kind}
    {lexeme : Text}
    (spelled : kind.Spelled lexeme) :
    Text.EndsInInk lexeme := by
  have wordPart {char : Char} (isWordPart : Text.isWordPart char) :
      Text.isBlank char = false := by
    rw [Bool.eq_false_iff]
    intro isBlank
    rw [Text.isWordPart_eq_false_of_isBlank isBlank] at isWordPart
    cases isWordPart
  cases spelled with
  | text isQuote _ => exact ⟨_, _, rfl, isQuote.isBlank_eq_false⟩
  | number isNumeral => exact isNumeral.endsInInk
  | reference areWordParts _ _ =>
      refine Text.endsInInk_of_forall (by simp) fun char present => ?_
      obtain rfl | present := List.mem_cons.mp present
      · rfl
      · exact wordPart (areWordParts char present)
  | @word first rest isWordStart areWordParts =>
      refine Text.endsInInk_of_forall (by simp) fun char present => ?_
      obtain rfl | present := List.mem_cons.mp present
      · exact wordPart (Text.isWordPart_of_isWordStart isWordStart)
      · exact wordPart (areWordParts char present)
  | stray notBlank => exact ⟨[], _, rfl, notBlank⟩
  | field | now | leftParen | rightParen | comma | plus | equals | atMost |
    atLeast => exact Text.endsInInk_of_getLast? rfl rfl

end Formula
end CellPreview
