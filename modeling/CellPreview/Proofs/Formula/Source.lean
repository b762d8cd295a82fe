import CellPreview.Proofs.Formula.Lexeme
import CellPreview.Proofs.Text.Slice

/-!
# Source of tokens

The tokens of a text together with the blanks between them are the text. So the
source of all tokens is the trimmed text, and the source of the tokens between
two others is the trimmed slice between these.
-/

namespace CellPreview
namespace Formula

/-- Tokens with the blanks before each of them. -/
def Token.written (tokens : List Token) : Text :=
  tokens.flatMap fun token => token.gap ++ token.lexeme

@[simp] theorem Token.written_nil : Token.written [] = [] := rfl

@[simp] theorem Token.written_cons (token : Token) (tokens : List Token) :
    Token.written (token :: tokens) =
      token.gap ++ token.lexeme ++ Token.written tokens := rfl

@[simp] theorem Token.written_append (first second : List Token) :
    Token.written (first ++ second) =
      Token.written first ++ Token.written second :=
  List.flatMap_append

/-- Tokens with only blanks before them that start and end with other
characters. -/
structure Token.WellSpaced (token : Token) : Prop where
  gap : ∀ char ∈ token.gap, Text.isBlank char
  starts : ∃ first rest, token.lexeme = first :: rest ∧
    Text.isBlank first = false
  ends : Text.EndsInInk token.lexeme

namespace Lexer

theorem Scans.wellSpaced
    {offset : Nat}
    {text : Text}
    {tokens : List Token}
    (scans : Scans offset text tokens) :
    ∀ token ∈ tokens, token.WellSpaced := by
  induction scans with
  | blank _ => simp
  | @token offset gap rest first piece tokens gapBlank notBlank found _
      inductionHypothesis =>
      intro token present
      obtain rfl | present := List.mem_cons.mp present
      · refine ⟨gapBlank, ?_, (spelled_piece? notBlank found).endsInInk⟩
        obtain ⟨char, others, lexeme⟩ :=
          List.exists_cons_of_ne_nil (piece?_lexeme_ne_nil found)
        have covers := piece?_covers found
        rw [lexeme, List.cons_append] at covers
        cases covers
        exact ⟨first, others, lexeme, notBlank⟩
      · exact inductionHypothesis token present

/-- A scanned text is written by its tokens, with blanks behind the last. -/
theorem Scans.exists_trailing
    {offset : Nat}
    {text : Text}
    {tokens : List Token}
    (scans : Scans offset text tokens) :
    ∃ trailing, text = Token.written tokens ++ trailing ∧
      ∀ char ∈ trailing, Text.isBlank char := by
  induction scans with
  | @blank _ gap allBlank => exact ⟨gap, rfl, allBlank⟩
  | @token offset gap rest first piece tokens _ _ found _
      inductionHypothesis =>
      obtain ⟨trailing, restEq, allBlank⟩ := inductionHypothesis
      refine ⟨trailing, ?_, allBlank⟩
      rw [← piece?_covers found, restEq]
      simp

/-- A token starts where those before it and its own blanks end. -/
theorem Scans.start_eq
    {offset : Nat}
    {text : Text}
    {before after : List Token}
    {token : Token}
    (scans : Scans offset text (before ++ token :: after)) :
    token.start = offset + (Token.written before).byteLength +
      token.gap.byteLength := by
  induction before generalizing offset text with
  | nil =>
      cases scans
      simp
  | cons first before inductionHypothesis =>
      cases scans with
      | token _ _ _ following =>
          rw [inductionHypothesis following]
          simp only [Token.written_cons, Text.byteLength_append]
          omega

end Lexer

namespace Token

theorem endsInInk_source
    {first : Token}
    {others : List Token}
    (wellSpaced : ∀ token ∈ first :: others, token.WellSpaced) :
    Text.EndsInInk (source (first :: others)) := by
  induction others generalizing first with
  | nil => simpa using (wellSpaced first (by simp)).ends
  | cons second others inductionHypothesis =>
      have ends := inductionHypothesis fun token present =>
        wellSpaced token (List.mem_cons_of_mem _ present)
      simpa using ends.append (first.lexeme ++ second.gap)

/-- Trimming what tokens write gives their source. -/
theorem trim_written
    {tokens : List Token}
    {trailing : Text}
    (wellSpaced : ∀ token ∈ tokens, token.WellSpaced)
    (trailingBlank : ∀ char ∈ trailing, Text.isBlank char) :
    Text.trim (written tokens ++ trailing) = source tokens := by
  cases tokens with
  | nil => exact Text.trim_of_forall_isBlank trailingBlank
  | cons first others =>
      obtain ⟨char, rest, lexeme, notBlank⟩ :=
        (wellSpaced first (by simp)).starts
      have sourceEq : source (first :: others) =
          char :: (rest ++ written others) := by
        rw [source_cons, lexeme]
        rfl
      have ends := endsInInk_source wellSpaced
      rw [sourceEq] at ends ⊢
      have trimmed := Text.trim_append (wellSpaced first (by simp)).gap
        notBlank ends trailingBlank
      simpa [lexeme] using trimmed

/-- The source of tokens has no blanks around it. -/
theorem trim_source
    {tokens : List Token}
    (wellSpaced : ∀ token ∈ tokens, token.WellSpaced) :
    Text.trim (source tokens) = source tokens := by
  rw [← @trim_written tokens [] wellSpaced (by simp), Text.trim_trim]

end Token

/-- The source of all tokens is the trimmed text. -/
theorem source_eq_trim
    {body : Text}
    {tokens : List Token}
    (tokenized : tokenize body = .ok tokens) :
    Token.source tokens = body.trim := by
  have scans := Lexer.scan_eq_ok_iff.mp tokenized
  obtain ⟨trailing, rfl, allBlank⟩ := scans.exists_trailing
  rw [Token.trim_written scans.wellSpaced allBlank]

/-- Between two tokens stand the tokens that lie between them, and the blanks
before the second. -/
theorem slice_eq_written
    {body : Text}
    {before inside after : List Token}
    {opening closing : Token}
    (tokenized :
      tokenize body = .ok (before ++ opening :: inside ++ closing :: after)) :
    body.slice opening.stop closing.start =
      Token.written inside ++ closing.gap := by
  have scans := Lexer.scan_eq_ok_iff.mp tokenized
  have closingStart := scans.start_eq
  obtain ⟨trailing, bodyEq, _⟩ := scans.exists_trailing
  rw [List.append_assoc, List.cons_append] at scans
  have openingStart := scans.start_eq
  have split : body =
      (Token.written before ++ opening.gap ++ opening.lexeme) ++
        ((Token.written inside ++ closing.gap) ++
          (closing.lexeme ++ Token.written after ++ trailing)) := by
    rw [bodyEq]
    simp
  rw [split]
  apply Text.slice_append
  · rw [Token.stop, openingStart]
    simp only [Text.byteLength_append]
    omega
  · rw [closingStart]
    simp only [Token.written_append, Token.written_cons,
      Text.byteLength_append]
    omega

/-- The source of the tokens between two others is the trimmed slice of the
text between these. -/
theorem source_eq_trim_slice
    {body : Text}
    {before inside after : List Token}
    {opening closing : Token}
    (tokenized :
      tokenize body = .ok (before ++ opening :: inside ++ closing :: after)) :
    Token.source inside =
      (body.slice opening.stop closing.start).trim := by
  have wellSpaced := (Lexer.scan_eq_ok_iff.mp tokenized).wellSpaced
  rw [slice_eq_written tokenized, Token.trim_written]
  · intro token present
    exact wellSpaced token (by simp [present])
  · exact (wellSpaced closing (by simp)).gap

end Formula
end CellPreview
