import CellPreview.Proofs.Text.Digits
import CellPreview.Proofs.Text.Span
import CellPreview.Text.Blank
import CellPreview.Text.Letter

/-!
# Blanks and the ends of a text

The blanks are few enough to be listed, and none of them belongs to a word.
Trimming takes away the blanks around a text that starts and ends with another
character, and nothing else.
-/

namespace CellPreview
namespace Text

/-- Code points of the blanks. -/
def blankCodes : List Nat :=
  [0x09, 0x0A, 0x0B, 0x0C, 0x0D, 0x20, 0x85, 0xA0, 0x1680, 0x2000, 0x2001,
    0x2002, 0x2003, 0x2004, 0x2005, 0x2006, 0x2007, 0x2008, 0x2009, 0x200A,
    0x2028, 0x2029, 0x202F, 0x205F, 0x3000]

theorem toNat_mem_blankCodes
    {char : Char}
    (isBlank : isBlank char) :
    char.toNat ∈ blankCodes := by
  simp only [Text.isBlank, Bool.or_eq_true, Bool.and_eq_true,
    decide_eq_true_eq, beq_iff_eq] at isBlank
  simp only [blankCodes, List.mem_cons, List.not_mem_nil, or_false]
  omega

/-- A word may go on with whatever it may start with. -/
theorem isWordPart_of_isWordStart
    {char : Char}
    (isWordStart : isWordStart char) :
    isWordPart char := by
  rw [Text.isWordStart, Bool.or_eq_true] at isWordStart
  obtain isLetter | isUnderscore := isWordStart
  · simp [isWordPart, isLetter]
  · simp [isWordPart, isUnderscore]

/-- No blank belongs to a word. -/
theorem isWordPart_eq_false_of_isBlank
    {char : Char}
    (isBlank : isBlank char) :
    isWordPart char = false := by
  have noCode : ∀ code ∈ blankCodes, letterRanges.covers code = false ∧
      numeralRanges.covers code = false ∧ code ≠ '_'.toNat := by
    decide +kernel
  obtain ⟨notLetter, notNumeral, notUnderscore⟩ :=
    noCode char.toNat (toNat_mem_blankCodes isBlank)
  have differs : char ≠ '_' := by
    rintro rfl
    exact notUnderscore rfl
  simp [isWordPart, isLetter, isNumeral, notLetter, notNumeral, differs]

/-- No digit is a blank. -/
theorem isBlank_eq_false_of_isDigit
    {char : Char}
    (isDigit : char.isDigit) :
    isBlank char = false := by
  rw [Bool.eq_false_iff]
  intro isBlank
  have code := toNat_mem_blankCodes isBlank
  simp only [blankCodes, List.mem_cons, List.not_mem_nil, or_false] at code
  simp only [Char.isDigit, ge_iff_le, Bool.and_eq_true, decide_eq_true_eq,
    UInt32.le_iff_toNat_le] at isDigit
  have zero : '0'.val.toNat = 48 := rfl
  have nine : '9'.val.toNat = 57 := rfl
  have value : char.toNat = char.val.toNat := rfl
  omega

/-- Texts whose last character is not a blank. -/
def EndsInInk (text : Text) : Prop :=
  ∃ before last, text = before ++ [last] ∧ isBlank last = false

theorem EndsInInk.append
    {text : Text}
    (ends : EndsInInk text)
    (before : Text) :
    EndsInInk (before ++ text) := by
  obtain ⟨middle, last, rfl, notBlank⟩ := ends
  exact ⟨before ++ middle, last, by simp, notBlank⟩

theorem endsInInk_of_getLast?
    {text : Text}
    {last : Char}
    (isLast : text.getLast? = some last)
    (notBlank : isBlank last = false) :
    EndsInInk text := by
  obtain ⟨before, rfl⟩ := List.getLast?_eq_some_iff.mp isLast
  exact ⟨before, last, rfl, notBlank⟩

/-- A nonempty text without blanks ends in one of its characters. -/
theorem endsInInk_of_forall
    {text : Text}
    (nonempty : text ≠ [])
    (noBlank : ∀ char ∈ text, isBlank char = false) :
    EndsInInk text :=
  endsInInk_of_getLast? (List.getLast?_eq_some_getLast nonempty)
    (noBlank _ (List.getLast_mem nonempty))

theorem Denotes.endsInInk
    {digits : Text}
    {number : Nat}
    (denotes : Denotes digits number) :
    EndsInInk digits :=
  endsInInk_of_forall denotes.nonempty fun char present =>
    isBlank_eq_false_of_isDigit (denotes.areDigits char present)

/-- Trimming the end takes away the blanks there, and nothing else. -/
theorem trimEnd_append
    {text trailing : Text}
    (ends : EndsInInk text)
    (allBlank : ∀ char ∈ trailing, isBlank char) :
    trimEnd (text ++ trailing) = text := by
  obtain ⟨before, last, rfl, notBlank⟩ := ends
  have reversedBlank : ∀ char ∈ trailing.reverse, isBlank char := by
    simpa using allBlank
  rw [trimEnd, List.reverse_append,
    List.dropWhile_append_of_pos reversedBlank]
  simp [notBlank]

/-- Trimming a text takes away the blanks before its first other character and
after its last. -/
theorem trim_append
    {leading trailing rest : Text}
    {first : Char}
    (leadingBlank : ∀ char ∈ leading, isBlank char)
    (notBlank : isBlank first = false)
    (ends : EndsInInk (first :: rest))
    (trailingBlank : ∀ char ∈ trailing, isBlank char) :
    trim (leading ++ (first :: rest) ++ trailing) = first :: rest := by
  rw [trim, trimStart, List.append_assoc,
    List.dropWhile_append_of_pos leadingBlank, List.cons_append,
    List.dropWhile_cons_of_neg (by simp [notBlank]), ← List.cons_append,
    trimEnd_append ends trailingBlank]

theorem trim_eq_self
    {rest : Text}
    {first : Char}
    (notBlank : isBlank first = false)
    (ends : EndsInInk (first :: rest)) :
    trim (first :: rest) = first :: rest := by
  have trimmed := @trim_append [] [] rest first (by simp) notBlank ends (by simp)
  rwa [List.nil_append, List.append_nil] at trimmed

theorem trim_of_forall_isBlank
    {text : Text}
    (allBlank : ∀ char ∈ text, isBlank char) :
    trim text = [] := by
  rw [trim, trimStart, List.dropWhile_eq_nil_iff.mpr allBlank]
  rfl

/-- A text is its trimmed form with blanks around it. -/
theorem exists_trailing_eq (text : Text) :
    ∃ trailing, text = text.takeWhile isBlank ++ (text.trim ++ trailing) ∧
      ∀ char ∈ trailing, isBlank char := by
  refine ⟨(text.trimStart.reverse.takeWhile isBlank).reverse, ?_, ?_⟩
  · rw [trim, trimEnd, ← List.reverse_append, List.takeWhile_append_dropWhile,
      List.reverse_reverse, trimStart, List.takeWhile_append_dropWhile]
  · intro char present
    exact List.mem_takeWhile_imp (List.mem_reverse.mp present)

theorem endsInInk_trimEnd
    {text : Text}
    (nonempty : trimEnd text ≠ []) :
    EndsInInk (trimEnd text) := by
  rw [trimEnd] at nonempty ⊢
  cases dropped : text.reverse.dropWhile isBlank with
  | nil =>
      rw [dropped] at nonempty
      contradiction
  | cons last before =>
      exact ⟨before.reverse, last, by rw [List.reverse_cons],
        eq_false_of_dropWhile_eq_cons dropped⟩

/-- A trimmed text starts and ends with another character than a blank. -/
theorem not_isBlank_of_trim_eq_cons
    {text rest : Text}
    {first : Char}
    (trimmed : text.trim = first :: rest) :
    isBlank first = false ∧ EndsInInk (first :: rest) := by
  obtain ⟨trailing, textEq, _⟩ := exists_trailing_eq text
  have started : text.dropWhile isBlank = first :: rest ++ trailing := by
    have whole := textEq
    rw [← trimmed]
    conv at whole =>
      lhs
      rw [← List.takeWhile_append_dropWhile (p := isBlank) (l := text)]
    exact List.append_cancel_left whole
  constructor
  · exact eq_false_of_dropWhile_eq_cons started
  · rw [← trimmed]
    apply endsInInk_trimEnd
    rw [← trim, trimmed]
    simp

/-- A trimmed text has no blanks around it. -/
theorem trim_trim (text : Text) : text.trim.trim = text.trim := by
  cases trimmed : text.trim with
  | nil => rfl
  | cons first rest =>
      obtain ⟨notBlank, ends⟩ := not_isBlank_of_trim_eq_cons trimmed
      exact trim_eq_self notBlank ends

/-- Blanks around a text do not change its trimmed form. -/
theorem trim_surrounded
    {leading trailing : Text}
    (leadingBlank : ∀ char ∈ leading, isBlank char)
    (trailingBlank : ∀ char ∈ trailing, isBlank char)
    (text : Text) :
    trim (leading ++ text ++ trailing) = trim text := by
  obtain ⟨behind, textEq, behindBlank⟩ := exists_trailing_eq text
  have beforeBlank : ∀ char ∈ leading ++ text.takeWhile isBlank, isBlank char :=
    List.forall_mem_append.mpr
      ⟨leadingBlank, fun _ present => List.mem_takeWhile_imp present⟩
  have afterBlank : ∀ char ∈ behind ++ trailing, isBlank char :=
    List.forall_mem_append.mpr ⟨behindBlank, trailingBlank⟩
  have whole : leading ++ text ++ trailing =
      (leading ++ text.takeWhile isBlank) ++ text.trim ++
        (behind ++ trailing) := by
    conv => lhs; rw [textEq]
    simp only [List.append_assoc]
  rw [whole]
  cases trimmed : text.trim with
  | nil =>
      rw [List.append_nil, trim_of_forall_isBlank]
      exact List.forall_mem_append.mpr ⟨beforeBlank, afterBlank⟩
  | cons first rest =>
      obtain ⟨notBlank, ends⟩ := not_isBlank_of_trim_eq_cons trimmed
      exact trim_append beforeBlank notBlank ends afterBlank

/-- Texts that differ from a text by blanks around it. -/
inductive PaddedTo (text : Text) : Text -> Prop
  | around {leading trailing : Text} :
      (∀ char ∈ leading, isBlank char) -> (∀ char ∈ trailing, isBlank char) ->
      PaddedTo text (leading ++ text ++ trailing)

theorem PaddedTo.trim_eq
    {text padded : Text}
    (paddedTo : text.PaddedTo padded) :
    padded.trim = text.trim := by
  cases paddedTo with
  | around leadingBlank trailingBlank =>
      exact trim_surrounded leadingBlank trailingBlank text

/-- What stands before a character that another text lacks includes that text,
if it starts the whole. -/
theorem exists_before_eq
    {gap rest before after : Text}
    {char : Char}
    (same : gap ++ rest = before ++ char :: after)
    (absent : char ∉ gap) :
    ∃ inside, before = gap ++ inside ∧ rest = inside ++ char :: after := by
  obtain ⟨inside, beforeEq, restEq⟩ | ⟨more, gapEq, restEq⟩ :=
    List.append_eq_append_iff.mp same
  · exact ⟨inside, beforeEq, restEq⟩
  · obtain ⟨rfl, rfl⟩ | ⟨others, rfl, _⟩ := List.cons_eq_append_iff.mp restEq
    · exact ⟨[], by simpa using gapEq.symm, rfl⟩
    · exact absurd (by simp [gapEq]) absent

/-- What stands behind a character that another text lacks includes that text,
if it ends the whole. -/
theorem exists_behind_eq
    {rest trailing before after : Text}
    {char : Char}
    (same : rest ++ trailing = before ++ char :: after)
    (absent : char ∉ trailing) :
    ∃ inside, rest = before ++ char :: inside := by
  obtain ⟨more, _, trailingEq⟩ | ⟨more, restEq, tailEq⟩ :=
    List.append_eq_append_iff.mp same
  · exact absurd (by simp [trailingEq]) absent
  · obtain ⟨rfl, rfl⟩ | ⟨inside, rfl, _⟩ := List.cons_eq_append_iff.mp tailEq
    · exact absurd List.mem_cons_self absent
    · exact ⟨inside, restEq⟩

/-- A character that is not blank stands where the trimmed form of the text
does. -/
theorem byteLength_before_of_not_isBlank
    {text before after : Text}
    {char : Char}
    (textEq : text = before ++ char :: after)
    (notBlank : isBlank char = false) :
    byteLength (text.takeWhile isBlank) ≤ byteLength before ∧
      byteLength before <
        byteLength (text.takeWhile isBlank) + byteLength text.trim := by
  have notIn {blanks : Text} (areBlank : ∀ other ∈ blanks, isBlank other) :
      char ∉ blanks := by
    intro present
    rw [areBlank char present] at notBlank
    cases notBlank
  obtain ⟨trailing, trimEq, trailingBlank⟩ := exists_trailing_eq text
  obtain ⟨inside, beforeEq, restEq⟩ := exists_before_eq
    (trimEq.symm.trans textEq)
    (notIn fun _ present => List.mem_takeWhile_imp present)
  obtain ⟨more, trimmed⟩ := exists_behind_eq restEq (notIn trailingBlank)
  have positive := char.utf8Size_pos
  rw [beforeEq, trimmed]
  simp only [byteLength_append, byteLength_cons]
  omega

end Text
end CellPreview
