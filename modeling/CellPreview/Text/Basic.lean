/-!
# Text

Text is the list of its characters. Positions in a text are counted in bytes
of its UTF-8 form, so the byte length of a text is defined here together with
the decimal numerals that other modules write into texts.
-/

namespace CellPreview

/-- A text, as the list of its characters. -/
abbrev Text := List Char

/-- A string literal stands for the text of its characters. -/
instance : Coe String Text := ⟨String.toList⟩

namespace Text

/-- Number of bytes in the UTF-8 form of a text. -/
def byteLength : Text -> Nat
  | [] => 0
  | char :: rest => char.utf8Size + byteLength rest

@[simp] theorem byteLength_nil : byteLength [] = 0 := rfl

@[simp] theorem byteLength_cons (char : Char) (rest : Text) :
    byteLength (char :: rest) = char.utf8Size + byteLength rest := rfl

@[simp] theorem byteLength_append (first second : Text) :
    byteLength (first ++ second) = byteLength first + byteLength second := by
  induction first with
  | nil => simp
  | cons char rest inductionHypothesis =>
      simp [inductionHypothesis, Nat.add_assoc]

/-- Decimal numeral of a natural number. -/
def ofNat (number : Nat) : Text :=
  Nat.toDigits 10 number

/-- Decimal numeral of an integer, with a minus sign below zero. -/
def ofInt : Int -> Text
  | .ofNat number => ofNat number
  | .negSucc number => '-' :: ofNat (number + 1)

@[simp] theorem ofInt_natCast (number : Nat) :
    ofInt (number : Int) = ofNat number := rfl

/-- The parts of a text between the occurrences of a separator. -/
def split (separator : Char) : Text -> List Text
  | [] => [[]]
  | char :: rest =>
      match char == separator, split separator rest with
      | true, others => [] :: others
      | false, [] => [[char]]
      | false, part :: others => (char :: part) :: others

/-- Texts joined with a separator between neighbours. -/
def joined (separator : Text) (parts : List Text) : Text :=
  (parts.intersperse separator).flatten

theorem split_ne_nil (separator : Char) (text : Text) :
    split separator text ≠ [] := by
  cases text with
  | nil => simp [split]
  | cons char rest => unfold split; split <;> simp

theorem split_of_notMem
    {separator : Char}
    {text : Text}
    (absent : separator ∉ text) :
    split separator text = [text] := by
  induction text with
  | nil => rfl
  | cons char rest inductionHypothesis =>
      obtain ⟨differs, absent⟩ := not_or.mp (mt List.mem_cons.mpr absent)
      have differs : (char == separator) = false :=
        beq_eq_false_iff_ne.mpr (Ne.symm differs)
      rw [split, differs, inductionHypothesis absent]

/-- Joining the parts of a text with the separator gives the text again. -/
theorem joined_split (separator : Char) (text : Text) :
    joined [separator] (split separator text) = text := by
  induction text with
  | nil => rfl
  | cons char rest inductionHypothesis =>
      obtain ⟨part, others, parts⟩ :=
        List.exists_cons_of_ne_nil (split_ne_nil separator rest)
      rw [parts] at inductionHypothesis
      by_cases same : char = separator
      · simp only [split, same, beq_self_eq_true, parts]
        simpa [joined] using inductionHypothesis
      · have differ : (char == separator) = false := by simp [same]
        simp only [split, differ, parts]
        cases others <;> simpa [joined] using inductionHypothesis

/-- Whether two texts agree when ASCII letters are read without case. -/
def sameLetters (first second : Text) : Bool :=
  first.map Char.toLower == second.map Char.toLower

end Text
end CellPreview
