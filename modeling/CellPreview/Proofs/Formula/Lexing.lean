import CellPreview.Proofs.Formula.Lexeme

/-!
# Texts with given tokens

A text is put together from the spellings of tokens, the last of them first.
What may be written in front of a text is a blank or the spelling of a token.
A number, a word or a reference needs a delimiter behind it, and the other
tokens are complete by themselves.
-/

namespace CellPreview
namespace Formula

/-- A text is scanned as tokens of given kinds, wherever it starts. -/
def Lexes (text : Text) (run : List Token.Kind) : Prop :=
  ∀ offset, ∃ tokens, kinds tokens = run ∧ Lexer.Scans offset text tokens

namespace Lexer

theorem piece?_text
    {quote : Char}
    {content : Text}
    (isQuote : IsQuote quote)
    (absent : quote ∉ content)
    (rest : Text) :
    piece? quote (content ++ quote :: rest) =
      some ⟨.text content, quote :: content ++ [quote], rest⟩ := by
  have quoted : (quote = '\'' || quote = '"') = true := by
    obtain rfl | rfl := isQuote <;> rfl
  unfold piece?
  rw [if_pos quoted, textPiece?_of_notMem absent]

theorem fraction_eq_self
    {part : Text}
    (fractionCases : part = [] ∨ ∃ digits, part = '.' :: digits ∧
      digits ≠ [] ∧ ∀ char ∈ digits, char.isDigit) :
    fraction part = part := by
  obtain rfl | ⟨digits, rfl, nonempty, areDigits⟩ := fractionCases
  · rfl
  · obtain ⟨digit, others, rfl⟩ := List.exists_cons_of_ne_nil nonempty
    have starts : startsWithDigit (digit :: others) :=
      areDigits digit (by simp)
    rw [fraction, if_pos starts, List.takeWhile_eq_self_iff.mpr areDigits]

theorem numberPiece_of_digits
    {digits part : Text}
    (areDigits : ∀ char ∈ digits, char.isDigit)
    (fractionCases : part = [] ∨ ∃ digits, part = '.' :: digits ∧
      digits ≠ [] ∧ ∀ char ∈ digits, char.isDigit)
    (first : Char) :
    numberPiece first (digits ++ part) =
      ⟨.number (first :: digits ++ part), first :: digits ++ part, []⟩ := by
  have stops : ∀ char ∈ part.head?, char.isDigit = false := by
    obtain rfl | ⟨digits, rfl, _, _⟩ := fractionCases
    · simp
    · rintro char ⟨⟩
      rfl
  obtain ⟨taken, dropped⟩ := Text.span_of_forall areDigits stops
  simp [numberPiece, taken, dropped, fraction_eq_self fractionCases]

theorem piece?_of_isDigit
    {first : Char}
    (isDigit : first.isDigit)
    (rest : Text) :
    piece? first rest = some (numberPiece first rest) := by
  have notQuote : ¬(first = '\'' || first = '"') = true := by
    intro isQuote
    simp only [Bool.or_eq_true, decide_eq_true_eq] at isQuote
    obtain rfl | rfl := isQuote <;> cases isDigit
  unfold piece?
  rw [if_neg notQuote, if_pos (by rw [isDigit, Bool.true_or])]

theorem piece?_minus
    {rest : Text}
    (starts : startsWithDigit rest) :
    piece? '-' rest = some (numberPiece '-' rest) := by
  unfold piece?
  rw [if_neg (by decide), if_pos (by simp [starts])]

/-- A numeral is one token when a delimiter follows. -/
theorem exists_piece?_number
    {numeral rest : Text}
    (isNumeral : IsNumeral numeral)
    (delimits : Delimits rest) :
    ∃ first others, numeral = first :: others ∧ Text.isBlank first = false ∧
      piece? first (others ++ rest) = some ⟨.number numeral, numeral, rest⟩ := by
  cases isNumeral with
  | @numeral sign whole part signCases nonempty areDigits fractionCases =>
      obtain ⟨digit, digits, rfl⟩ := List.exists_cons_of_ne_nil nonempty
      have isDigit : digit.isDigit := areDigits digit (by simp)
      obtain rfl | rfl := signCases
      · have areOthers : ∀ char ∈ digits, char.isDigit :=
          fun char present => areDigits char (List.mem_cons_of_mem _ present)
        refine ⟨digit, digits ++ part, rfl,
          Text.isBlank_eq_false_of_isDigit isDigit, ?_⟩
        have found := piece?_of_isDigit isDigit (digits ++ part)
        rw [numberPiece_of_digits areOthers fractionCases] at found
        exact piece?_append found delimits
      · refine ⟨'-', digit :: digits ++ part, rfl, rfl, ?_⟩
        have starts : startsWithDigit (digit :: digits ++ part) := isDigit
        have found := piece?_minus starts
        rw [numberPiece_of_digits areDigits fractionCases] at found
        exact piece?_append found delimits

theorem piece?_reference
    {name rest : Text}
    (areWordParts : ∀ char ∈ name, Text.isWordPart char)
    (delimits : Delimits rest) :
    piece? '@' (name ++ rest) =
      some ⟨referenceKind name, '@' :: name, rest⟩ := by
  have stops : ∀ char ∈ rest.head?, Text.isWordPart char = false :=
    fun char present => (delimits char present).1
  obtain ⟨taken, dropped⟩ := Text.span_of_forall areWordParts stops
  have isReference : piece? '@' (name ++ rest) =
      some (referencePiece (name ++ rest)) := rfl
  rw [isReference, referencePiece, taken, dropped]

theorem piece?_if
    {rest : Text}
    (delimits : Delimits rest) :
    piece? 'i' ('f' :: rest) =
      some ⟨.word ['i', 'f'], ['i', 'f'], rest⟩ := by
  have found : piece? 'i' ['f'] = some ⟨.word ['i', 'f'], ['i', 'f'], []⟩ := by
    rfl
  exact piece?_append found delimits

end Lexer

namespace Lexes

variable {text : Text} {run : List Token.Kind}

theorem nil : Lexes [] [] :=
  fun _ => ⟨[], rfl, .blank (by simp)⟩

/-- Blanks in front of a text change no token. -/
theorem gap
    {gap : Text}
    (lexes : Lexes text run)
    (allBlank : ∀ char ∈ gap, Text.isBlank char) :
    Lexes (gap ++ text) run := by
  intro offset
  obtain ⟨tokens, same, scans⟩ := lexes (offset + gap.byteLength)
  cases scans with
  | blank moreBlank =>
      exact ⟨[], same, .blank (List.forall_mem_append.mpr
        ⟨allBlank, moreBlank⟩)⟩
  | @token _ inner rest first piece tokens innerBlank notBlank found following =>
      rw [Nat.add_assoc offset, ← Text.byteLength_append] at following
      rw [← List.append_assoc]
      exact ⟨⟨piece.kind, _, gap ++ inner, piece.lexeme⟩ :: tokens, same,
        .token (List.forall_mem_append.mpr ⟨allBlank, innerBlank⟩) notBlank
          found following⟩

theorem blank (lexes : Lexes text run) : Lexes (' ' :: text) run :=
  @Lexes.gap _ _ [' '] lexes fun char present => by
    rw [List.mem_singleton.mp present]
    rfl

/-- A token in front of a text that it is not joined with. -/
theorem piece
    {first : Char}
    {rest lexeme : Text}
    {kind : Token.Kind}
    (lexes : Lexes text run)
    (notBlank : Text.isBlank first = false)
    (found : Lexer.piece? first rest = some ⟨kind, lexeme, text⟩) :
    Lexes (first :: rest) (kind :: run) := by
  intro offset
  obtain ⟨tokens, same, scans⟩ := lexes (offset + lexeme.byteLength)
  refine ⟨⟨kind, offset, [], lexeme⟩ :: tokens, ?_,
    @Lexer.Scans.token offset [] rest first _ tokens (by simp) notBlank found
      scans⟩
  rw [kinds_cons, same]

end Lexes

/-! ## Writing -/

/-- The quote that encloses a text, which is the single one unless the text
holds it. -/
def quoteFor (content : Text) : Char :=
  if '\'' ∈ content then '"' else '\''

/-- How a token is written, with the blanks around it. -/
def Token.Kind.written : Kind -> Text
  | .text content => quoteFor content :: content ++ [quoteFor content]
  | .comma => [',', ' ']
  | .plus => [' ', '+', ' ']
  | .equals => [' ', '=', '=', ' ']
  | .atMost => [' ', '<', '=', ' ']
  | .atLeast => [' ', '>', '=', ' ']
  | kind => kind.shown

/-- Tokens one after the other. -/
def written (run : List Token.Kind) : Text :=
  run.flatMap Token.Kind.written

theorem written_cons (kind : Token.Kind) (run : List Token.Kind) :
    written (kind :: run) = kind.written ++ written run := rfl

/-- Kinds of tokens that can be written. -/
def Token.Kind.IsWritable : Kind -> Prop
  | .text content => '\'' ∉ content ∨ '"' ∉ content
  | .number numeral => IsNumeral numeral
  | .word name => name = ['i', 'f']
  | .reference _ | .stray _ => False
  | _ => True

/-- Kinds of tokens that are joined with what is written behind them, unless
that is a separator. -/
def Token.Kind.isOpen : Kind -> Bool
  | .number _ | .field | .now | .word _ => true
  | _ => false

/-- Kinds of tokens that may be written behind every other token. -/
def Token.Kind.isSeparator : Kind -> Bool
  | .leftParen | .rightParen | .comma | .plus => true
  | .equals | .atMost | .atLeast => true
  | _ => false

/-- Runs that are empty or start with a separator. -/
def StartsSeparated (run : List Token.Kind) : Prop :=
  ∀ kind ∈ run.head?, kind.isSeparator

/-- Runs of tokens that can be written one after the other. -/
inductive Writable : List Token.Kind -> Prop
  | nil : Writable []
  | cons {kind : Token.Kind} {run : List Token.Kind} :
      kind.IsWritable ->
      (kind.isOpen -> StartsSeparated run) ->
      Writable run ->
      Writable (kind :: run)

theorem StartsSeparated.delimits
    {run : List Token.Kind}
    (separated : StartsSeparated run) :
    Lexer.Delimits (written run) := by
  cases run with
  | nil => exact Lexer.delimits_nil
  | cons kind run =>
      have isSeparator := separated kind rfl
      cases kind with
      | leftParen | rightParen | comma | plus | equals | atMost | atLeast =>
          exact Lexer.delimits_cons (by decide) _
      | text | number | field | now | reference | word | stray =>
          cases isSeparator

theorem isQuote_quoteFor (content : Text) : IsQuote (quoteFor content) := by
  unfold quoteFor
  split
  · exact .inr rfl
  · exact .inl rfl

theorem quoteFor_notMem
    {content : Text}
    (lacks : '\'' ∉ content ∨ '"' ∉ content) :
    quoteFor content ∉ content := by
  unfold quoteFor
  split
  · rename_i present
    exact lacks.resolve_left (not_not_intro present)
  · assumption

/-- A token may be written in front of tokens that are written already. -/
theorem Lexes.written
    {kind : Token.Kind}
    {run : List Token.Kind}
    (lexes : Lexes (written run) run)
    (writable : kind.IsWritable)
    (separated : kind.isOpen -> StartsSeparated run) :
    Lexes (kind.written ++ Formula.written run) (kind :: run) := by
  cases kind with
  | text content =>
      have found := Lexer.piece?_text (isQuote_quoteFor content)
        (quoteFor_notMem writable) (Formula.written run)
      simpa [Token.Kind.written] using
        lexes.piece (isQuote_quoteFor content).isBlank_eq_false found
  | number numeral =>
      obtain ⟨first, others, rfl, notBlank, found⟩ :=
        Lexer.exists_piece?_number writable (separated rfl).delimits
      exact lexes.piece notBlank found
  | field =>
      have areWordParts : fieldName.all Text.isWordPart := by decide
      exact lexes.piece rfl (Lexer.piece?_reference
        (List.all_eq_true.mp areWordParts) (separated rfl).delimits)
  | now =>
      have areWordParts : nowName.all Text.isWordPart := by decide
      exact lexes.piece rfl (Lexer.piece?_reference
        (List.all_eq_true.mp areWordParts) (separated rfl).delimits)
  | word name =>
      cases writable
      exact lexes.piece rfl (Lexer.piece?_if (separated rfl).delimits)
  | leftParen => exact lexes.piece rfl rfl
  | rightParen => exact lexes.piece rfl rfl
  | comma => exact @Lexes.piece _ _ _ _ _ _ lexes.blank rfl rfl
  | plus => exact (@Lexes.piece _ _ _ _ _ _ lexes.blank rfl rfl).blank
  | equals => exact (@Lexes.piece _ _ _ _ _ _ lexes.blank rfl rfl).blank
  | atMost => exact (@Lexes.piece _ _ _ _ _ _ lexes.blank rfl rfl).blank
  | atLeast => exact (@Lexes.piece _ _ _ _ _ _ lexes.blank rfl rfl).blank
  | reference | stray => cases writable

theorem Writable.lexes
    {run : List Token.Kind}
    (writable : Writable run) :
    Lexes (written run) run := by
  induction writable with
  | nil => exact .nil
  | cons isWritable separated _ inductionHypothesis =>
      exact inductionHypothesis.written isWritable separated

end Formula
end CellPreview
