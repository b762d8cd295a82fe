import CellPreview.Formula.Lexer
import CellPreview.Proofs.Text.Span

/-!
# What stands behind a token

Where a token ends depends on the next one or two characters only. So another
text may stand behind it, as long as that text does not start with anything
that would make the token longer, or with less than what ended it.
-/

namespace CellPreview
namespace Formula
namespace Lexer

theorem textPiece?_of_notMem
    {quote : Char}
    {content : Text}
    (absent : quote ∉ content)
    (rest : Text) :
    textPiece? quote (content ++ quote :: rest) =
      some ⟨.text content, quote :: content ++ [quote], rest⟩ := by
  have others : ∀ char ∈ content, (char != quote) = true := by
    intro char present
    rw [bne_iff_ne]
    rintro rfl
    exact absent present
  obtain ⟨taken, dropped⟩ := @Text.span_of_forall (· != quote) content
    (quote :: rest) others (by simp)
  simp only [textPiece?, taken, dropped]

theorem notMem_of_textPiece?_eq_none
    {quote : Char}
    {rest : Text}
    (absent : textPiece? quote rest = none) :
    quote ∉ rest := by
  intro present
  obtain ⟨content, others, rfl, notInside⟩ :=
    List.eq_append_cons_of_mem present
  rw [textPiece?_of_notMem notInside] at absent
  cases absent

/-! ## Texts that start alike -/

/-- Texts that start alike, as far as a token in front of them can tell. -/
structure Alike (text other : Text) : Prop where
  wordPart : text.head?.any Text.isWordPart = other.head?.any Text.isWordPart
  digit : startsWithDigit text = startsWithDigit other
  fraction : fraction text = [] ↔ fraction other = []
  equals : text.head? = some '=' ↔ other.head? = some '='

namespace Alike

theorem refl (text : Text) : Alike text text :=
  ⟨rfl, rfl, Iff.rfl, Iff.rfl⟩

theorem cons
    {text other : Text}
    (alike : Alike text other)
    (char : Char) :
    Alike (char :: text) (char :: other) := by
  refine ⟨rfl, rfl, ?_, Iff.rfl⟩
  by_cases isPoint : char = '.'
  · subst isPoint
    simp [Lexer.fraction, alike.digit]
  · simp [Lexer.fraction, isPoint]

theorem append
    {text other : Text}
    (alike : Alike text other)
    (before : Text) :
    Alike (before ++ text) (before ++ other) := by
  induction before with
  | nil => exact alike
  | cons char before inductionHypothesis => exact inductionHypothesis.cons char

theorem any_isDigit
    {text other : Text}
    (alike : Alike text other) :
    text.head?.any Char.isDigit = other.head?.any Char.isDigit := by
  have any (text : Text) :
      text.head?.any Char.isDigit = startsWithDigit text := by
    cases text <;> rfl
  rw [any, any, alike.digit]

/-- A reference ends a token as a blank does. -/
theorem reference (name text : Text) : Alike ('@' :: name) (' ' :: text) := by
  refine ⟨?_, rfl, by simp [Lexer.fraction], by simp⟩
  have neither : Text.isWordPart '@' = false ∧ Text.isWordPart ' ' = false := by
    decide
  simp [neither.1, neither.2]

end Alike

/-! ## Exchanging the text behind a token -/

section

variable {first : Char} {used rest other : Text} {kind : Token.Kind}

theorem textPiece?_congr
    (found : textPiece? first (used ++ rest) =
      some ⟨kind, first :: used, rest⟩) :
    textPiece? first (used ++ other) = some ⟨kind, first :: used, other⟩ := by
  obtain ⟨content, absent, sameKind, sameUsed⟩ :
      ∃ content, first ∉ content ∧ kind = .text content ∧
        used = content ++ [first] := by
    unfold textPiece? at found
    dsimp only at found
    split at found
    · cases found
    · rename_i closing others dropped
      simp only [Option.some.injEq, Piece.mk.injEq, List.cons_append,
        List.cons.injEq, true_and] at found
      refine ⟨_, fun present => ?_, found.1.symm, ?_⟩
      · have differs := List.mem_takeWhile_imp present
        simp at differs
      · have isClosing : closing = first := by
          simpa using Text.eq_false_of_dropWhile_eq_cons dropped
        rw [isClosing] at found
        exact found.2.1.symm
  rw [sameKind, sameUsed, List.append_assoc]
  exact textPiece?_of_notMem absent other

theorem fraction_congr
    {part : Text}
    (taken : fraction (part ++ rest) = part)
    (alike : Alike rest other) :
    fraction (part ++ other) = part := by
  cases part with
  | nil => exact alike.fraction.mp taken
  | cons point digits =>
      rw [List.cons_append] at taken ⊢
      unfold fraction at taken
      split at taken
      · rename_i whole
        obtain ⟨rfl, rfl⟩ := List.cons.inj whole
        split at taken
        · rename_i starts
          have alikeDigits := (alike.append digits).digit
          rw [starts] at alikeDigits
          have taken := (List.cons.inj taken).2
          rw [fraction, if_pos alikeDigits.symm,
            (Text.span_congr taken alike.any_isDigit).1]
        · cases taken
      · cases taken

theorem numberPiece_congr
    (found : numberPiece first (used ++ rest) = ⟨kind, first :: used, rest⟩)
    (alike : Alike rest other) :
    numberPiece first (used ++ other) = ⟨kind, first :: used, other⟩ := by
  simp only [numberPiece, Piece.mk.injEq, List.cons_append, List.cons.injEq,
    true_and] at found
  obtain ⟨sameKind, sameUsed, sameRest⟩ := found
  generalize takenEq : (used ++ rest).takeWhile Char.isDigit = digits at *
  generalize (used ++ rest).dropWhile Char.isDigit = afterWhole at *
  -- the digits of the whole part, the fraction and the text behind them
  have split := fraction_append_drop afterWhole
  rw [sameRest] at split
  generalize fractionEq : fraction afterWhole = part at *
  subst sameUsed split
  rw [List.append_assoc] at takenEq ⊢
  obtain ⟨taken, dropped⟩ :=
    Text.span_congr takenEq (alike.append part).any_isDigit
  simp [numberPiece, taken, dropped, fraction_congr fractionEq alike, sameKind]

theorem referencePiece_congr
    (found : referencePiece (used ++ rest) = ⟨kind, '@' :: used, rest⟩)
    (alike : Alike rest other) :
    referencePiece (used ++ other) = ⟨kind, '@' :: used, other⟩ := by
  simp only [referencePiece, Piece.mk.injEq, List.cons.injEq, true_and] at found
  obtain ⟨sameKind, taken, _⟩ := found
  obtain ⟨takenOther, droppedOther⟩ := Text.span_congr taken alike.wordPart
  rw [referencePiece, takenOther, droppedOther, ← sameKind, taken]

theorem wordPiece_congr
    (found : wordPiece first (used ++ rest) = ⟨kind, first :: used, rest⟩)
    (alike : Alike rest other) :
    wordPiece first (used ++ other) = ⟨kind, first :: used, other⟩ := by
  simp only [wordPiece, Piece.mk.injEq, List.cons.injEq, true_and] at found
  obtain ⟨sameKind, taken, _⟩ := found
  obtain ⟨takenOther, droppedOther⟩ := Text.span_congr taken alike.wordPart
  rw [wordPiece, takenOther, droppedOther, ← sameKind, taken]

theorem singlePiece_congr
    {single : Token.Kind}
    (found : singlePiece single first (used ++ rest) =
      ⟨kind, first :: used, rest⟩)
    (other : Text) :
    singlePiece single first (used ++ other) =
      ⟨kind, first :: used, other⟩ := by
  simp only [singlePiece, Piece.mk.injEq, List.cons.injEq, true_and] at found
  obtain ⟨rfl, rfl, _⟩ := found
  rfl

theorem comparisonPiece_congr
    {operator : Token.Kind}
    (found : comparisonPiece operator first (used ++ rest) =
      ⟨kind, first :: used, rest⟩)
    (alike : Alike rest other) :
    comparisonPiece operator first (used ++ other) =
      ⟨kind, first :: used, other⟩ := by
  unfold comparisonPiece at found
  split at found
  · simp only [Piece.mk.injEq, List.cons.injEq, true_and] at found
    obtain ⟨rfl, rfl, _⟩ := found
    rfl
  · rename_i notEquals
    have isSingle := singlePiece_congr found other
    simp only [singlePiece, Piece.mk.injEq, List.cons.injEq, true_and] at found
    obtain ⟨_, rfl, _⟩ := found
    unfold comparisonPiece
    split
    · rename_i others starts
      have starts := alike.equals.mpr (congrArg List.head? starts)
      obtain ⟨tail, rfl⟩ := List.head?_eq_some_iff.mp starts
      exact absurd rfl (notEquals tail)
    · exact isSingle

/-- A token keeps its end when the text behind it is exchanged for one that
starts alike. -/
theorem piece?_congr
    (found : piece? first (used ++ rest) = some ⟨kind, first :: used, rest⟩)
    (alike : Alike rest other) :
    piece? first (used ++ other) = some ⟨kind, first :: used, other⟩ := by
  unfold piece? at found ⊢
  rw [← (alike.append used).digit]
  split at found
  · rw [if_pos ‹_›]
    exact textPiece?_congr found
  · rw [if_neg ‹_›]
    split at found
    · rw [if_pos ‹_›, numberPiece_congr (Option.some.inj found) alike]
    · rw [if_neg ‹_›]
      split at found
      · rename_i isReference
        subst isReference
        rw [if_pos rfl, referencePiece_congr (Option.some.inj found) alike]
      · rw [if_neg ‹_›]
        split at found
        · rw [if_pos ‹_›, wordPiece_congr (Option.some.inj found) alike]
        · rw [if_neg ‹_›]
          have found := Option.some.inj found
          congr 1
          split at found
          all_goals first
            | exact comparisonPiece_congr found alike
            | exact singlePiece_congr found other

end

/-- A token starts with the character that it was found at. -/
theorem exists_lexeme_eq
    {first : Char}
    {text : Text}
    {piece : Piece}
    (found : piece? first text = some piece) :
    ∃ used, piece.lexeme = first :: used ∧ text = used ++ piece.rest := by
  obtain ⟨char, used, lexemeEq⟩ :=
    List.exists_cons_of_ne_nil (piece?_lexeme_ne_nil found)
  have covers := piece?_covers found
  rw [lexemeEq, List.cons_append] at covers
  obtain ⟨rfl, rest⟩ := List.cons.inj covers
  exact ⟨used, lexemeEq, rest.symm⟩

end Lexer
end Formula
end CellPreview
