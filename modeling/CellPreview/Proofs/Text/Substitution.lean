import CellPreview.Text.Blank
import CellPreview.Text.Substitution
import Mathlib.Data.List.Infix

/-!
# Occurrences and substitution

A text without an occurrence of the pattern is not changed by a substitution.
And a substitution makes no occurrence of another pattern when its replacement
has no character of that pattern: an occurrence would have to lie within the
replacement, to end in it or to start in it.
-/

namespace CellPreview
namespace Text

theorem trim_isInfix (text : Text) : text.trim <:+: text := by
  have ends : text.trim <:+: text.trimStart := by
    rw [← List.reverse_infix, trim, trimEnd, List.reverse_reverse]
    exact (List.dropWhile_suffix isBlank).isInfix
  exact ends.trans (List.dropWhile_suffix isBlank).isInfix

/-! ## One occurrence after the other -/

theorem replaceAll_cons_of_not_isPrefixOf
    {pattern rest : Text}
    {char : Char}
    (noPrefix : ¬pattern.isPrefixOf (char :: rest))
    (replacement : Text) :
    replaceAll pattern replacement (char :: rest) =
      char :: replaceAll pattern replacement rest := by
  rw [replaceAll, replaceFrom, if_neg noPrefix, replaceAll]

/-- An occurrence at the front is replaced, and the walk goes on behind it. -/
theorem replaceAll_cons_append (mark : Char) (name replacement rest : Text) :
    replaceAll (mark :: name) replacement (mark :: name ++ rest) =
      replacement ++ replaceAll (mark :: name) replacement rest := by
  have starts : (mark :: name).isPrefixOf (mark :: (name ++ rest)) :=
    List.isPrefixOf_iff_prefix.mpr (List.prefix_append (mark :: name) rest)
  rw [replaceAll, List.cons_append, replaceFrom, if_pos starts,
    replaceFrom_eq_drop]
  simp

/-- Characters that start no occurrence are copied. -/
theorem replaceAll_append_of_notMem
    {mark : Char}
    {before : Text}
    (absent : mark ∉ before)
    (name replacement rest : Text) :
    replaceAll (mark :: name) replacement (before ++ rest) =
      before ++ replaceAll (mark :: name) replacement rest := by
  induction before with
  | nil => rfl
  | cons char before inductionHypothesis =>
      obtain ⟨differs, absent⟩ := not_or.mp (mt List.mem_cons.mpr absent)
      have noPrefix :
          ¬(mark :: name).isPrefixOf (char :: (before ++ rest)) := by
        simp [differs]
      rw [List.cons_append, replaceAll_cons_of_not_isPrefixOf noPrefix,
        inductionHypothesis absent, List.cons_append]

/-! ## Occurrences -/

/-- A text without the pattern is left as it is. -/
theorem replaceAll_eq_self
    {pattern text : Text}
    (absent : ¬pattern <:+: text)
    (replacement : Text) :
    replaceAll pattern replacement text = text := by
  unfold replaceAll
  induction text with
  | nil => rfl
  | cons char rest inductionHypothesis =>
      have noPrefix : ¬pattern.isPrefixOf (char :: rest) := fun starts =>
        absent (List.isPrefixOf_iff_prefix.mp starts).isInfix
      rw [replaceFrom, if_neg noPrefix,
        inductionHypothesis fun present => absent (List.infix_cons present)]

/-- The replacement matters only for a text with the pattern. -/
theorem replaceAll_congr
    {pattern replacement other text : Text}
    (same : pattern <:+: text -> replacement = other) :
    replaceAll pattern replacement text = replaceAll pattern other text := by
  by_cases present : pattern <:+: text
  · rw [same present]
  · rw [replaceAll_eq_self present, replaceAll_eq_self present]

section

variable {pattern replacement other : Text}

/-- What has none of the characters in front of a text occurs in the text if it
occurs at all. -/
theorem isInfix_of_append
    {before text : Text}
    (nonempty : other ≠ [])
    (foreign : ∀ char ∈ before, char ∉ other)
    (occurs : other <:+: before ++ text) :
    other <:+: text := by
  induction before with
  | nil => exact occurs
  | cons char before inductionHypothesis =>
      have rest := inductionHypothesis fun later present =>
        foreign later (List.mem_cons_of_mem _ present)
      obtain starts | inside := List.infix_cons_iff.mp occurs
      · obtain isEmpty | ⟨tail, rfl, _⟩ := List.prefix_cons_iff.mp starts
        · exact absurd isEmpty nonempty
        · exact absurd List.mem_cons_self (foreign char List.mem_cons_self)
      · exact rest inside

/-- A substitution changes no start of a text that has none of the characters of
its replacement. -/
theorem isPrefix_of_replaceAll
    (nonempty : replacement ≠ [])
    {text : Text}
    (foreign : ∀ char ∈ replacement, char ∉ other)
    (starts : other <+: replaceAll pattern replacement text) :
    other <+: text := by
  unfold replaceAll at starts
  induction text generalizing other with
  | nil => exact starts
  | cons char rest inductionHypothesis =>
      cases other with
      | nil => exact List.nil_prefix
      | cons first others =>
          rw [replaceFrom] at starts
          split at starts
          · obtain ⟨char, replacement, rfl⟩ :=
              List.exists_cons_of_ne_nil nonempty
            obtain ⟨rfl, _⟩ := List.cons_prefix_cons.mp starts
            exact absurd List.mem_cons_self (foreign first List.mem_cons_self)
          · obtain ⟨rfl, othersStart⟩ := List.cons_prefix_cons.mp starts
            have othersForeign : ∀ char ∈ replacement, char ∉ others :=
              fun char present isOther =>
                foreign char present (List.mem_cons_of_mem _ isOther)
            exact List.cons_prefix_cons.mpr
              ⟨rfl, inductionHypothesis othersForeign othersStart⟩

/-- A substitution makes no occurrence of what has none of the characters of its
replacement. -/
theorem isInfix_of_replaceAll
    (nonempty : replacement ≠ [])
    {text : Text}
    (foreign : ∀ char ∈ replacement, char ∉ other)
    (occurs : other <:+: replaceAll pattern replacement text) :
    other <:+: text := by
  by_cases isEmpty : other = []
  · rw [isEmpty]
    exact List.nil_infix
  unfold replaceAll at occurs
  generalize 0 = skipped at occurs
  fun_induction replaceFrom pattern replacement skipped text with
  | case1 => exact occurs
  | case2 _ _ _ inductionHypothesis =>
      exact List.infix_cons (inductionHypothesis occurs)
  | case3 _ _ _ inductionHypothesis =>
      exact List.infix_cons (inductionHypothesis
        (isInfix_of_append isEmpty foreign occurs))
  | case4 char rest noPrefix inductionHypothesis =>
      obtain starts | inside := List.infix_cons_iff.mp occurs
      · have whole : replaceAll pattern replacement (char :: rest) =
            char :: replaceFrom pattern replacement 0 rest := by
          rw [replaceAll, replaceFrom, if_neg noPrefix]
        rw [← whole] at starts
        exact (isPrefix_of_replaceAll nonempty foreign starts).isInfix
      · exact List.infix_cons (inductionHypothesis inside)

end

end Text
end CellPreview
