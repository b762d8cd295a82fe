import CellPreview.Json.TextLiteral
import CellPreview.Json.Writer
import CellPreview.Proofs.Outcome

/-!
# Text literals read back

A text between its quotes is read as the text itself: each of its characters
stands for itself or is written as an escape of which it is the meaning.
-/

namespace CellPreview
namespace Json

/-- A plain character in front of a literal belongs to its content. -/
theorem textLiteral_cons_of_isPlain
    {char : Char}
    {text content rest : Text}
    {count : Nat}
    (plain : isPlain char)
    (isRead : textLiteral count text = .ok (content, rest)) :
    textLiteral count (char :: text) = .ok (char :: content, rest) := by
  cases count with
  | zero => cases isRead
  | succ count =>
      rw [textLiteral] at isRead ⊢
      rw [List.dropWhile_cons_of_pos plain, List.takeWhile_cons_of_pos plain]
      split at isRead
      next => cases isRead
      next => cases isRead; rfl
      next =>
        obtain ⟨⟨meant, afterEscape⟩, escaped, isRead⟩ :=
          Outcome.bind_eq_ok_iff.mp isRead
        obtain ⟨⟨others, afterOthers⟩, othersRead, isRead⟩ :=
          Outcome.bind_eq_ok_iff.mp isRead
        cases isRead
        simp [escaped, othersRead]
      next => cases isRead

/-- An escape in front of a literal is the first character of its content. -/
theorem textLiteral_cons_of_escape
    {char : Char}
    {text afterEscape content rest : Text}
    {count : Nat}
    (escaped : escape text = .ok (char, afterEscape))
    (isRead : textLiteral count afterEscape = .ok (content, rest)) :
    textLiteral (count + 1) ('\\' :: text) = .ok (char :: content, rest) := by
  have notPlain : isPlain '\\' = false := rfl
  simp [textLiteral, notPlain, escaped, isRead]

/-- A control character is read from its two digits. -/
theorem escape_control
    {char : Char}
    (control : char.toNat < 0x20)
    (rest : Text) :
    escape ('u' :: '0' :: '0' :: hexDigit (char.toNat / 16) ::
      hexDigit (char.toNat % 16) :: rest) = .ok (char, rest) := by
  have digits : ∀ code < 0x20,
      hexValue? (hexDigit (code / 16)) = some (code / 16) ∧
        hexValue? (hexDigit (code % 16)) = some (code % 16) := by
    decide
  obtain ⟨high, low⟩ := digits char.toNat control
  have zero : hexValue? '0' = some 0 := rfl
  have unit : escapeUnit ('0' :: '0' :: hexDigit (char.toNat / 16) ::
      hexDigit (char.toNat % 16) :: rest) = .ok (char.toNat, rest) := by
    simp [escapeUnit, fourDigits?, zero, high, low, Nat.div_add_mod']
  have notTrailing : isTrailing char.toNat = false := by
    simp only [isTrailing, Bool.and_eq_false_imp, decide_eq_true_eq]
    omega
  have notLeading : isLeading char.toNat = false := by
    simp only [isLeading, Bool.and_eq_false_imp, decide_eq_true_eq]
    omega
  simp [escape, numericEscape, unit, notTrailing, notLeading]

/-- A character that needs an escape is written as one that means it. -/
theorem escapedChar_cases (char : Char) :
    (isPlain char ∧ escapedChar char = [char]) ∨
      ∃ letters, escapedChar char = '\\' :: letters ∧
        ∀ rest, escape (letters ++ rest) = .ok (char, rest) := by
  unfold escapedChar
  split
  all_goals try exact .inr ⟨_, rfl, fun _ => rfl⟩
  next notQuote notBackslash _ _ _ _ _ =>
    split
    next control => exact .inr ⟨_, rfl, escape_control control⟩
    next notControl =>
      refine .inl ⟨?_, rfl⟩
      simp only [isPlain, Bool.and_eq_true, bne_iff_ne, decide_eq_true_eq]
      exact ⟨⟨notQuote, notBackslash⟩, Nat.le_of_not_lt notControl⟩

/-- The content of a text literal is read as itself. -/
theorem textLiteral_append
    {content : Text}
    {count : Nat}
    (enough : content.length < count)
    (rest : Text) :
    textLiteral count (content.flatMap escapedChar ++ '"' :: rest) =
      .ok (content, rest) := by
  induction content generalizing count with
  | nil =>
      cases count with
      | zero => cases enough
      | succ count => rfl
  | cons char others inductionHypothesis =>
      cases count with
      | zero => cases enough
      | succ count =>
          have fewer : others.length < count := Nat.lt_of_succ_lt_succ enough
          rw [List.flatMap_cons, List.append_assoc]
          obtain ⟨plain, isWritten⟩ | ⟨letters, isWritten, escaped⟩ :=
            escapedChar_cases char
          · rw [isWritten]
            exact textLiteral_cons_of_isPlain plain
              (inductionHypothesis (Nat.lt_succ_of_lt fewer))
          · rw [isWritten]
            exact textLiteral_cons_of_escape (escaped _)
              (inductionHypothesis fewer)

theorem newline_notMem_escapedChar (char : Char) : '\n' ∉ escapedChar char := by
  have noDigit : ∀ code < 0x20,
      hexDigit (code / 16) ≠ '\n' ∧ hexDigit (code % 16) ≠ '\n' := by
    decide
  unfold escapedChar
  split
  all_goals try decide
  next notNewline _ _ _ _ =>
    split
    next control =>
      obtain ⟨high, low⟩ := noDigit char.toNat control
      simp [high.symm, low.symm]
    next => exact fun present => notNewline (List.mem_singleton.mp present).symm

/-- No written text goes over several lines. -/
theorem newline_notMem_quotedText (content : Text) :
    '\n' ∉ quotedText content := by
  simp [quotedText, newline_notMem_escapedChar]

theorem length_lt_length_quotedText (content : Text) :
    content.length < (quotedText content).length := by
  have longer : content.length ≤ (content.flatMap escapedChar).length := by
    induction content with
    | nil => simp
    | cons char others inductionHypothesis =>
        have nonempty : 0 < (escapedChar char).length := by
          obtain ⟨_, isWritten⟩ | ⟨letters, isWritten, _⟩ :=
            escapedChar_cases char <;> simp [isWritten]
        rw [List.flatMap_cons, List.length_append, List.length_cons]
        omega
  simp only [quotedText, List.length_cons, List.length_append]
  omega

end Json
end CellPreview
