import CellPreview.Proofs.Formula.Levels
import CellPreview.Proofs.Formula.Lookahead

/-!
# Scanning

A successful scan is described by a relation that is built from the front of
the text, one token at a time, with the characters that really follow. A scan
that stops is described in the same way by where it stops. A token is not
disturbed by more text behind it when that text starts with a character that
belongs to no longer token. So texts may be scanned one by one and joined, as
long as a delimiter stands between them.
-/

namespace CellPreview
namespace Formula

/-- A token some bytes further on. -/
def Token.shift (amount : Nat) (token : Token) : Token :=
  { token with start := token.start + amount }

@[simp] theorem Token.kind_shift (amount : Nat) (token : Token) :
    (token.shift amount).kind = token.kind := rfl

@[simp] theorem kinds_map_shift (amount : Nat) (tokens : List Token) :
    kinds (tokens.map (Token.shift amount)) = kinds tokens := by
  simp [kinds, Function.comp_def]

namespace Lexer

/-- The tokens of a text whose first character has a given byte offset. -/
inductive Scans : Nat -> Text -> List Token -> Prop
  | blank {offset : Nat} {gap : Text} :
      (∀ char ∈ gap, Text.isBlank char) ->
      Scans offset gap []
  | token {offset : Nat} {gap rest : Text} {first : Char} {piece : Piece}
      {tokens : List Token} :
      (∀ char ∈ gap, Text.isBlank char) ->
      Text.isBlank first = false ->
      piece? first rest = some piece ->
      Scans (offset + gap.byteLength + piece.lexeme.byteLength) piece.rest
        tokens ->
      Scans offset (gap ++ first :: rest)
        (⟨piece.kind, offset + gap.byteLength, gap, piece.lexeme⟩ :: tokens)

theorem takeWhile_append_dropWhile_eq
    {predicate : Char -> Bool}
    {text rest : Text}
    (dropped : text.dropWhile predicate = rest) :
    text = text.takeWhile predicate ++ rest := by
  rw [← dropped, List.takeWhile_append_dropWhile]

theorem scans_of_scan
    {offset : Nat}
    {text : Text}
    {tokens : List Token}
    (scanned : scan offset text = .ok tokens) :
    Scans offset text tokens := by
  fun_induction scan offset text generalizing tokens with
  | case1 offset text allBlank =>
      cases scanned
      exact .blank (List.dropWhile_eq_nil_iff.mp allBlank)
  | case2 => cases scanned
  | case3 offset text gap start first rest dropped piece found =>
      rename_i inductionHypothesis
      cases others : scan (start + piece.lexeme.byteLength) piece.rest with
      | error cause =>
          rw [others] at scanned
          cases scanned
      | ok tail =>
          rw [others] at scanned
          cases scanned
          rw [takeWhile_append_dropWhile_eq dropped]
          exact .token (fun char present => List.mem_takeWhile_imp present)
            (Text.eq_false_of_dropWhile_eq_cons dropped) found
            (inductionHypothesis others)

theorem Scans.scan_eq
    {offset : Nat}
    {text : Text}
    {tokens : List Token}
    (scans : Scans offset text tokens) :
    scan offset text = .ok tokens := by
  induction scans with
  | blank allBlank =>
      rw [scan.eq_def]
      split
      · rfl
      · rename_i dropped
        rw [List.dropWhile_eq_nil_iff.mpr allBlank] at dropped
        cases dropped
  | @token offset gap rest first piece tokens gapBlank firstNotBlank found _
      inductionHypothesis =>
      have taken : (gap ++ first :: rest).takeWhile Text.isBlank = gap := by
        rw [List.takeWhile_append_of_pos gapBlank]
        simp [firstNotBlank]
      have dropped :
          (gap ++ first :: rest).dropWhile Text.isBlank = first :: rest := by
        rw [List.dropWhile_append_of_pos gapBlank]
        simp [firstNotBlank]
      rw [scan.eq_def]
      dsimp only
      split
      · rename_i absent
        rw [dropped] at absent
        cases absent
      · rename_i same
        rw [dropped] at same
        cases same
        split
        · rename_i absent
          rw [found] at absent
          cases absent
        · rename_i same
          rw [found] at same
          cases same
          rw [taken, inductionHypothesis]
          rfl

/-- A scan succeeds exactly as described. -/
theorem scan_eq_ok_iff
    {offset : Nat}
    {text : Text}
    {tokens : List Token} :
    scan offset text = .ok tokens ↔ Scans offset text tokens :=
  ⟨scans_of_scan, Scans.scan_eq⟩

/-- The cause with which a scan of a text stops, behind the tokens that are
found before. -/
inductive Stops : Nat -> Text -> Error -> Prop
  | unclosed {offset : Nat} {gap rest : Text} {first : Char} :
      (∀ char ∈ gap, Text.isBlank char) ->
      piece? first rest = none ->
      Stops offset (gap ++ first :: rest)
        (.unterminatedText (offset + gap.byteLength))
  | token {offset : Nat} {gap rest : Text} {first : Char} {piece : Piece}
      {cause : Error} :
      (∀ char ∈ gap, Text.isBlank char) ->
      Text.isBlank first = false ->
      piece? first rest = some piece ->
      Stops (offset + gap.byteLength + piece.lexeme.byteLength) piece.rest
        cause ->
      Stops offset (gap ++ first :: rest) cause

theorem stops_of_scan
    {offset : Nat}
    {text : Text}
    {cause : Error}
    (failed : scan offset text = .error cause) :
    Stops offset text cause := by
  fun_induction scan offset text with
  | case1 => cases failed
  | case2 offset text gap start first rest dropped absent =>
      cases failed
      rw [takeWhile_append_dropWhile_eq dropped]
      exact .unclosed (fun char present => List.mem_takeWhile_imp present)
        absent
  | case3 offset text gap start first rest dropped piece found =>
      rename_i inductionHypothesis
      cases others : scan (start + piece.lexeme.byteLength) piece.rest with
      | error other =>
          rw [others] at failed
          cases failed
          rw [takeWhile_append_dropWhile_eq dropped]
          exact .token (fun char present => List.mem_takeWhile_imp present)
            (Text.eq_false_of_dropWhile_eq_cons dropped) found
            (inductionHypothesis others)
      | ok tail =>
          rw [others] at failed
          cases failed

/-- Only a text literal without its closing quote stops a scan. -/
theorem Stops.exists_start
    {offset : Nat}
    {text : Text}
    {cause : Error}
    (stops : Stops offset text cause) :
    ∃ start, cause = .unterminatedText start := by
  induction stops with
  | unclosed => exact ⟨_, rfl⟩
  | token _ _ _ _ inductionHypothesis => exact inductionHypothesis

/-- A text further on has the same tokens further on. -/
theorem Scans.shift
    {offset : Nat}
    {text : Text}
    {tokens : List Token}
    (scans : Scans offset text tokens)
    (amount : Nat) :
    Scans (offset + amount) text (tokens.map (Token.shift amount)) := by
  induction scans with
  | blank allBlank => exact .blank allBlank
  | @token offset gap rest first piece tokens gapBlank firstNotBlank found _
      inductionHypothesis =>
      have start : offset + amount + gap.byteLength =
          offset + gap.byteLength + amount := by omega
      have stop : offset + gap.byteLength + piece.lexeme.byteLength + amount =
          offset + amount + gap.byteLength + piece.lexeme.byteLength := by
        omega
      rw [stop] at inductionHypothesis
      have shifted := Scans.token gapBlank firstNotBlank found
        inductionHypothesis
      rw [start] at shifted
      exact shifted

/-! ## Delimiters -/

/-- Texts whose first character lengthens no token before it. -/
def Delimits (text : Text) : Prop :=
  ∀ char ∈ text.head?,
    Text.isWordPart char = false ∧ Char.isDigit char = false ∧
      char ≠ '.' ∧ char ≠ '='

theorem delimits_nil : Delimits [] := by
  intro char present
  cases present

theorem delimits_cons
    {char : Char}
    (delimiter : Text.isWordPart char = false ∧ Char.isDigit char = false ∧
      char ≠ '.' ∧ char ≠ '=')
    (rest : Text) :
    Delimits (char :: rest) := by
  intro other present
  cases present
  exact delimiter

/-- A delimiter starts like the end of a text. -/
theorem Delimits.alike
    {rest : Text}
    (delimits : Delimits rest)
    (text : Text) :
    Alike text (text ++ rest) := by
  have atEnd : Alike [] rest := by
    cases rest with
    | nil => exact .refl []
    | cons char rest =>
        obtain ⟨notWordPart, notDigit, notPoint, notEquals⟩ := delimits char rfl
        refine ⟨?_, notDigit.symm, ?_, ?_⟩
        · simp [notWordPart]
        · simp [fraction, notPoint]
        · simp [notEquals]
  have whole := atEnd.append text
  rwa [List.append_nil] at whole

/-- A token is not disturbed by a delimiter behind it. -/
theorem piece?_append
    {first : Char}
    {text rest : Text}
    {piece : Piece}
    (found : piece? first text = some piece)
    (delimits : Delimits rest) :
    piece? first (text ++ rest) =
      some ⟨piece.kind, piece.lexeme, piece.rest ++ rest⟩ := by
  obtain ⟨used, lexemeEq, rfl⟩ := exists_lexeme_eq found
  rw [List.append_assoc, lexemeEq]
  refine piece?_congr ?_ (delimits.alike piece.rest)
  rw [found, ← lexemeEq]

/-- Tokens of two texts with a delimiter between them. The delimiter is a token
by itself, and the blanks at the end of the first text belong to it. -/
theorem Scans.append_delimiter
    {offset : Nat}
    {text : Text}
    {tokens : List Token}
    (scans : Scans offset text tokens)
    {char : Char}
    {rest : Text}
    {kind : Token.Kind}
    {others : List Token}
    (delimits : Delimits (char :: rest))
    (notBlank : Text.isBlank char = false)
    (single : piece? char rest = some (singlePiece kind char rest))
    (following :
      Scans (offset + text.byteLength + char.utf8Size) rest others) :
    ∃ gap, Scans offset (text ++ char :: rest)
      (tokens ++ ⟨kind, offset + text.byteLength, gap, [char]⟩ :: others) := by
  induction scans with
  | @blank offset gap allBlank =>
      -- the blanks behind the last token become the gap of the delimiter
      exact ⟨gap, .token allBlank notBlank single following⟩
  | @token offset gap middle first piece tokens gapBlank firstNotBlank found _
      inductionHypothesis =>
      have covers := congrArg Text.byteLength (piece?_covers found)
      simp only [Text.byteLength_append, Text.byteLength_cons] at covers
      have length : offset + gap.byteLength + piece.lexeme.byteLength +
          piece.rest.byteLength =
            offset + Text.byteLength (gap ++ first :: middle) := by
        simp only [Text.byteLength_append, Text.byteLength_cons]
        omega
      rw [← length] at following ⊢
      obtain ⟨lastGap, others⟩ := inductionHypothesis following
      refine ⟨lastGap, ?_⟩
      rw [List.append_assoc, List.cons_append]
      have joined := Scans.token gapBlank firstNotBlank
        (piece?_append found delimits) others
      exact joined

end Lexer
end Formula
end CellPreview
