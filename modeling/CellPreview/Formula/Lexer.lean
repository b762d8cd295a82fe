import CellPreview.Formula.Error
import CellPreview.Formula.Token
import CellPreview.Text.Blank
import CellPreview.Text.Letter

/-!
# Splitting a formula into tokens

The first character of a token decides its class, and the token is the longest
run that the class allows. Blanks only separate tokens. A text literal without
its closing quote is the one fatal error, since nothing after it has a known
structure; a character outside the language becomes a token of its own.

Every lexeme is a nonempty prefix of what remains, so the scan ends and loses
no character.
-/

namespace CellPreview
namespace Formula
namespace Lexer

/-- What was read at the start of a text, and the text after it. -/
structure Piece where
  kind : Token.Kind
  lexeme : Text
  rest : Text

/-- Whether a text starts with a decimal digit. -/
def startsWithDigit : Text -> Bool
  | [] => false
  | char :: _ => char.isDigit

/-- The fraction of a number after its whole part: a point that is followed by
a digit, and the digits. -/
def fraction : Text -> Text
  | '.' :: rest =>
      if startsWithDigit rest then '.' :: rest.takeWhile Char.isDigit else []
  | _ => []

/-- A number whose first character is a digit or a minus sign. -/
def numberPiece (first : Char) (rest : Text) : Piece :=
  let whole := rest.takeWhile Char.isDigit
  let afterWhole := rest.dropWhile Char.isDigit
  let part := fraction afterWhole
  let numeral := first :: whole ++ part
  ⟨.number numeral, numeral, afterWhole.drop part.length⟩

/-- A text literal after its opening quote, if it has a closing one. -/
def textPiece? (quote : Char) (rest : Text) : Option Piece :=
  let content := rest.takeWhile (· != quote)
  match rest.dropWhile (· != quote) with
  | [] => none
  | closing :: others =>
      some ⟨.text content, quote :: content ++ [closing], others⟩

/-- Kind of a reference by name. -/
def referenceKind (name : Text) : Token.Kind :=
  if name = fieldName then .field
  else if name = nowName then .now
  else .reference name

/-- A reference after its sign. -/
def referencePiece (rest : Text) : Piece :=
  let name := rest.takeWhile Text.isWordPart
  ⟨referenceKind name, '@' :: name, rest.dropWhile Text.isWordPart⟩

/-- A word with a given first character. -/
def wordPiece (first : Char) (rest : Text) : Piece :=
  let name := first :: rest.takeWhile Text.isWordPart
  ⟨.word name, name, rest.dropWhile Text.isWordPart⟩

/-- A token of one character. -/
def singlePiece (kind : Token.Kind) (char : Char) (rest : Text) : Piece :=
  ⟨kind, [char], rest⟩

/-- A comparison of two characters, or its first character by itself. -/
def comparisonPiece (kind : Token.Kind) (first : Char) : Text -> Piece
  | '=' :: rest => ⟨kind, [first, '='], rest⟩
  | rest => singlePiece (.stray first) first rest

/-- The token that starts with a character that is not blank; none for a text
literal that is never closed. -/
def piece? (first : Char) (rest : Text) : Option Piece :=
  if first = '\'' || first = '"' then textPiece? first rest
  else if first.isDigit || (first = '-' && startsWithDigit rest) then
    some (numberPiece first rest)
  else if first = '@' then some (referencePiece rest)
  else if Text.isWordStart first then some (wordPiece first rest)
  else
    some <|
      match first with
      | '(' => singlePiece .leftParen first rest
      | ')' => singlePiece .rightParen first rest
      | ',' => singlePiece .comma first rest
      | '+' => singlePiece .plus first rest
      | '=' => comparisonPiece .equals first rest
      | '<' => comparisonPiece .atMost first rest
      | '>' => comparisonPiece .atLeast first rest
      | _ => singlePiece (.stray first) first rest

theorem drop_takeWhile_length (predicate : Char -> Bool) (text : Text) :
    text.drop (text.takeWhile predicate).length = text.dropWhile predicate := by
  induction text with
  | nil => rfl
  | cons char rest inductionHypothesis =>
      by_cases holds : predicate char <;> simp [holds, inductionHypothesis]

theorem fraction_append_drop (text : Text) :
    fraction text ++ text.drop (fraction text).length = text := by
  unfold fraction
  split
  · split
    · rename_i rest _
      simp [drop_takeWhile_length]
    · simp
  · simp

theorem numberPiece_covers (first : Char) (rest : Text) :
    (numberPiece first rest).lexeme ++ (numberPiece first rest).rest =
      first :: rest := by
  simp only [numberPiece, List.cons_append, List.append_assoc,
    fraction_append_drop, List.takeWhile_append_dropWhile]

theorem textPiece?_covers
    {quote : Char} {rest : Text} {piece : Piece}
    (found : textPiece? quote rest = some piece) :
    piece.lexeme ++ piece.rest = quote :: rest := by
  unfold textPiece? at found
  dsimp only at found
  split at found
  · cases found
  · rename_i closing others dropped
    cases found
    have whole : rest.takeWhile (· != quote) ++ rest.dropWhile (· != quote) =
        rest := List.takeWhile_append_dropWhile
    rw [dropped] at whole
    simpa using whole

theorem comparisonPiece_covers
    (kind : Token.Kind) (first : Char) (rest : Text) :
    (comparisonPiece kind first rest).lexeme ++
        (comparisonPiece kind first rest).rest = first :: rest := by
  unfold comparisonPiece
  split <;> simp [singlePiece]

/-- A token and the text after it are together what was there before. -/
theorem piece?_covers
    {first : Char} {rest : Text} {piece : Piece}
    (found : piece? first rest = some piece) :
    piece.lexeme ++ piece.rest = first :: rest := by
  unfold piece? at found
  split at found
  · exact textPiece?_covers found
  · split at found
    · cases found
      exact numberPiece_covers first rest
    · split at found
      · cases found
        simp_all [referencePiece, List.takeWhile_append_dropWhile]
      · split at found
        · cases found
          simp [wordPiece, List.takeWhile_append_dropWhile]
        · cases found
          split <;> first
            | exact comparisonPiece_covers _ _ _
            | simp [singlePiece]

theorem textPiece?_lexeme_ne_nil
    {quote : Char} {rest : Text} {piece : Piece}
    (found : textPiece? quote rest = some piece) :
    piece.lexeme ≠ [] := by
  unfold textPiece? at found
  dsimp only at found
  split at found
  · cases found
  · cases found
    simp

/-- A token has at least one character. -/
theorem piece?_lexeme_ne_nil
    {first : Char} {rest : Text} {piece : Piece}
    (found : piece? first rest = some piece) :
    piece.lexeme ≠ [] := by
  unfold piece? at found
  split at found
  · exact textPiece?_lexeme_ne_nil found
  · split at found
    · cases found
      simp [numberPiece]
    · split at found
      · cases found
        simp [referencePiece]
      · split at found
        · cases found
          simp [wordPiece]
        · cases found
          split <;> simp [singlePiece, comparisonPiece] <;> split <;> simp

/-- A token leaves less text than there was. -/
theorem length_rest_lt
    {first : Char} {rest : Text} {piece : Piece}
    (found : piece? first rest = some piece) :
    piece.rest.length < (first :: rest).length := by
  have covers := congrArg List.length (piece?_covers found)
  have positive := List.length_pos_iff.mpr (piece?_lexeme_ne_nil found)
  rw [List.length_append] at covers
  omega

/-- Tokens of a text whose first character has a given byte offset. -/
def scan (offset : Nat) (text : Text) : Except Error (List Token) :=
  let gap := text.takeWhile Text.isBlank
  let start := offset + Text.byteLength gap
  match _ : text.dropWhile Text.isBlank with
  | [] => .ok []
  | first :: rest =>
      match _ : piece? first rest with
      | none => .error (.unterminatedText start)
      | some piece =>
          (scan (start + piece.lexeme.byteLength) piece.rest).map
            (⟨piece.kind, start, gap, piece.lexeme⟩ :: ·)
termination_by text.length
decreasing_by
  have shorter := length_rest_lt ‹piece? first rest = some piece›
  have kept := (List.dropWhile_suffix (l := text) Text.isBlank).length_le
  rw [‹text.dropWhile Text.isBlank = first :: rest›] at kept
  omega

end Lexer

/-- Tokens of a formula body. -/
def tokenize (body : Text) : Except Error (List Token) :=
  Lexer.scan 0 body

end Formula
end CellPreview
