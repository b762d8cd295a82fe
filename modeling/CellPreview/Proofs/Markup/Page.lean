import CellPreview.Proofs.Markup.Spacing
import Mathlib.Data.List.Infix

/-!
# A reader of pages

A page is HTML in which comments stand between forests. A comment ends where it
says so first, whatever was meant to be in it. So a text that does not say so is
read back as the comment that it was written in, and what is written after it is
read as the forest that it spells.
-/

namespace CellPreview
namespace Markup
namespace TagReader

/-- The text after the end of a comment, if a text starts with such an end. -/
def commentEnd? : Text -> Option Text
  | '-' :: '-' :: '>' :: rest => some rest
  | '-' :: '-' :: '!' :: '>' :: rest => some rest
  | _ => none

/-- What is inside of a comment up to its end, and the text after it. A comment
without an end takes all that is left. -/
def commentBody : Text -> Text × Text
  | [] => ([], [])
  | char :: rest =>
      match commentEnd? (char :: rest) with
      | some after => ([], after)
      | none => (char :: (commentBody rest).1, (commentBody rest).2)

/-- What is inside of a comment after its opening, and the text after it. An
angle bracket right after the opening ends the comment too. -/
def comment : Text -> Text × Text
  | '>' :: rest => ([], rest)
  | '-' :: '>' :: rest => ([], rest)
  | text => commentBody text

/-- The text after the opening of a comment, of which the bracket was read. -/
def commentStart? : Text -> Option Text
  | '!' :: '-' :: '-' :: rest => some rest
  | _ => none

theorem length_commentEnd?_lt
    {text after : Text}
    (ends : commentEnd? text = some after) :
    after.length < text.length := by
  unfold commentEnd? at ends
  split at ends <;> cases ends <;> simp only [List.length_cons] <;> omega

theorem length_commentBody_le (text : Text) :
    (commentBody text).2.length ≤ text.length := by
  fun_induction commentBody text with
  | case1 => exact le_rfl
  | case2 char rest after ends => exact (length_commentEnd?_lt ends).le
  | case3 char rest goesOn inductionHypothesis =>
      exact inductionHypothesis.trans (Nat.le_succ _)

theorem length_comment_le (text : Text) :
    (comment text).2.length ≤ text.length := by
  unfold comment
  split
  · simp
  · simp only [List.length_cons]
    omega
  · exact length_commentBody_le text

theorem length_commentStart?_lt
    {text inside : Text}
    (starts : commentStart? text = some inside) :
    inside.length < text.length := by
  unfold commentStart? at starts
  split at starts <;> cases starts
  simp only [List.length_cons]
  omega

/-- The marks of a text up to its first comment, and each comment with the marks
after it. -/
def page (text : Text) : List Mark × List (Text × List Mark) :=
  match text with
  | [] => ([], [])
  | char :: rest =>
      if char = '<' then
        match _ : commentStart? rest with
        | some inside =>
            let (marks, sections) := page (comment inside).2
            ([], ((comment inside).1, marks) :: sections)
        | none =>
            match _ : tag? rest with
            | some (mark, after) =>
                let (marks, sections) := page after
                (mark :: marks, sections)
            | none =>
                let (marks, sections) := page rest
                (consChar char marks, sections)
      else
        let (marks, sections) := page rest
        (consChar char marks, sections)
termination_by text.length
decreasing_by
  · have shorter := length_commentStart?_lt ‹commentStart? rest = some inside›
    have rest := length_comment_le inside
    simp only [List.length_cons]
    omega
  · have shorter := length_tag?_lt ‹tag? rest = some (mark, after)›
    exact Nat.lt_succ_of_lt shorter
  · exact Nat.lt_succ_self _
  · exact Nat.lt_succ_self _

theorem page_cons
    {char : Char}
    (notBracket : char ≠ '<')
    (rest : Text) :
    page (char :: rest) = (consChar char (page rest).1, (page rest).2) := by
  rw [page, if_neg notBracket]

theorem page_of_tag?
    {mark : Mark}
    {rest after : Text}
    (noExclamation : rest.head? ≠ some '!')
    (found : tag? rest = some (mark, after)) :
    page ('<' :: rest) = (mark :: (page after).1, (page after).2) := by
  have noComment : commentStart? rest = none := by
    unfold commentStart?
    split
    · exact absurd rfl noExclamation
    · rfl
  rw [page, if_pos rfl]
  split
  · rename_i same
    rw [noComment] at same
    cases same
  · split
    · rename_i same
      rw [found] at same
      cases same
      rfl
    · rename_i absent
      rw [found] at absent
      cases absent

/-- Pages are read as texts without comments are, between the comments. -/
theorem readsMarks_page : ReadsMarks page :=
  ⟨page_cons, page_of_tag?⟩

theorem page_comment (text : Text) :
    page ('<' :: '!' :: '-' :: '-' :: text) =
      ([], ((comment text).1, (page (comment text).2).1) ::
        (page (comment text).2).2) := by
  rw [page, if_pos rfl]
  rfl

/-! ## Ends of comments -/

/-- What ends a comment. -/
def commentEnds : List Text :=
  ["-->", "--!>"]

theorem commentEnd?_eq_some {text after : Text} :
    commentEnd? text = some after ↔
      ∃ ending ∈ commentEnds, text = ending ++ after := by
  constructor
  · intro ends
    unfold commentEnd? at ends
    split at ends <;> cases ends
    · exact ⟨"-->", List.mem_cons_self, rfl⟩
    · exact ⟨"--!>", List.mem_cons_of_mem _ List.mem_cons_self, rfl⟩
  · rintro ⟨ending, isEnding, rfl⟩
    obtain rfl | isEnding := List.mem_cons.mp isEnding
    · rfl
    · rw [List.mem_singleton.mp isEnding]
      rfl

/-- Texts in which no comment ends. -/
def EndsNoComment (text : Text) : Prop :=
  ∀ ending ∈ commentEnds, ¬ending <:+: text

instance (text : Text) : Decidable (EndsNoComment text) :=
  inferInstanceAs (Decidable (∀ ending ∈ commentEnds, ¬ending <:+: text))

theorem endsNoComment_nil : EndsNoComment [] := by
  decide

theorem EndsNoComment.of_isInfix
    {text part : Text}
    (endsNone : EndsNoComment text)
    (isPart : part <:+: text) :
    EndsNoComment part :=
  fun ending isEnding inside =>
    endsNone ending isEnding (inside.trans isPart)

/-- A blank keeps a text from ending a comment with what follows. -/
theorem EndsNoComment.commentEnd?_append
    {text : Text}
    (endsNone : EndsNoComment text)
    (rest : Text) :
    commentEnd? (text ++ ' ' :: rest) = none := by
  have noBlank : ∀ ending ∈ commentEnds, ' ' ∉ ending := by decide
  rw [Option.eq_none_iff_forall_ne_some]
  intro after ends
  obtain ⟨ending, isEnding, same⟩ := commentEnd?_eq_some.mp ends
  obtain ⟨more, rfl, goesOn⟩ | ⟨more, rfl, _⟩ :=
    List.append_eq_append_iff.mp same
  -- an end that reaches beyond the text would have the blank in it
  · cases more with
    | nil =>
        rw [List.append_nil] at isEnding
        exact endsNone text isEnding List.infix_rfl
    | cons first others =>
        rw [← (List.cons.inj goesOn).1] at isEnding
        exact noBlank _ isEnding
          (List.mem_append_right text List.mem_cons_self)
  · exact endsNone ending isEnding (List.prefix_append ending more).isInfix

/-- A text that ends no comment is read back as what it was written in. -/
theorem EndsNoComment.commentBody_append
    {text : Text}
    (endsNone : EndsNoComment text)
    (rest : Text) :
    commentBody (text ++ ' ' :: '-' :: '-' :: '>' :: rest) =
      (text ++ [' '], rest) := by
  induction text with
  | nil => simp [commentBody, commentEnd?]
  | cons char others inductionHypothesis =>
      have goesOn := endsNone.commentEnd?_append ('-' :: '-' :: '>' :: rest)
      rw [List.cons_append] at goesOn
      rw [List.cons_append, commentBody, goesOn]
      dsimp only
      rw [inductionHypothesis (endsNone.of_isInfix (List.suffix_cons _ _).isInfix),
        List.cons_append]

theorem EndsNoComment.comment_append
    {text : Text}
    (endsNone : EndsNoComment (' ' :: text))
    (rest : Text) :
    comment (' ' :: text ++ ' ' :: '-' :: '-' :: '>' :: rest) =
      (' ' :: text ++ [' '], rest) :=
  endsNone.commentBody_append rest

theorem commentBody_isPrefix (text : Text) : (commentBody text).1 <+: text := by
  fun_induction commentBody text with
  | case1 | case2 => exact List.nil_prefix
  | case3 char rest goesOn inductionHypothesis =>
      exact (List.prefix_cons_inj char).mpr inductionHypothesis

/-- No comment ends inside of what is read as a comment. -/
theorem endsNoComment_commentBody (text : Text) :
    EndsNoComment (commentBody text).1 := by
  fun_induction commentBody text with
  | case1 | case2 => exact endsNoComment_nil
  | case3 char rest goesOn inductionHypothesis =>
      intro ending isEnding occurs
      obtain starts | inside := List.infix_cons_iff.mp occurs
      -- an end that starts here starts the whole text too, but was not found
      · obtain ⟨after, same⟩ := starts.trans
          ((List.prefix_cons_inj char).mpr (commentBody_isPrefix rest))
        have ends := commentEnd?_eq_some.mpr ⟨ending, isEnding, same.symm⟩
        rw [goesOn] at ends
        cases ends
      · exact inductionHypothesis ending isEnding inside

theorem endsNoComment_comment (text : Text) :
    EndsNoComment (comment text).1 := by
  unfold comment
  split
  · exact endsNoComment_nil
  · exact endsNoComment_nil
  · exact endsNoComment_commentBody text

/-- No comment of a page has the end of a comment in it. -/
theorem endsNoComment_of_mem_page (text : Text) :
    ∀ found ∈ (page text).2, EndsNoComment found.1 := by
  fun_induction page text with
  | case1 => exact nofun
  | case2 rest inside starts marks sections read others =>
      rw [read] at others
      exact List.forall_mem_cons.mpr ⟨endsNoComment_comment inside, others⟩
  | case3 rest noComment mark after isTag marks sections read others =>
      rwa [read] at others
  | case4 rest noComment noTag marks sections read others =>
      rwa [read] at others
  | case5 char rest notBracket marks sections read others =>
      rwa [read] at others

/-- The forests after the comments of a page. -/
def forests? :
    List (Text × List Mark) -> Option (List (Text × List Fragment))
  | [] => some []
  | (comment, marks) :: others =>
      match forest? [] [] marks, forests? others with
      | some forest, some sections => some ((comment, forest) :: sections)
      | _, _ => none

/-- Read a page, of which each comment stands above a forest, and nothing stands
above the first comment. -/
def readPage? (text : Text) : Option (List (Text × List Fragment)) :=
  match page text with
  | ([], sections) => forests? sections
  | (_ :: _, _) => none

theorem endsNoComment_of_forests?
    {sections : List (Text × List Mark)}
    {found : List (Text × List Fragment)}
    (endNone : ∀ written ∈ sections, EndsNoComment written.1)
    (made : forests? sections = some found) :
    ∀ read ∈ found, EndsNoComment read.1 := by
  induction sections generalizing found with
  | nil =>
      cases made
      exact nofun
  | cons written others inductionHypothesis =>
      obtain ⟨endsNone, othersEndNone⟩ := List.forall_mem_cons.mp endNone
      rw [forests?] at made
      split at made
      next forest sections isForest isRest =>
        cases made
        exact List.forall_mem_cons.mpr
          ⟨endsNone, inductionHypothesis othersEndNone isRest⟩
      next => cases made

/-- No comment that is read has the end of a comment in it. -/
theorem endsNoComment_of_readPage?
    {text : Text}
    {found : List (Text × List Fragment)}
    (isPage : readPage? text = some found) :
    ∀ read ∈ found, EndsNoComment read.1 := by
  have endNone := endsNoComment_of_mem_page text
  unfold readPage? at isPage
  split at isPage
  next sections whole =>
    rw [whole] at endNone
    exact endsNoComment_of_forests? endNone isPage
  next => cases isPage

end TagReader

open TagReader

/-- What some fragments are written as is read as these fragments, with blanks
added, up to the next tag or comment. -/
theorem Spells.exists_read
    {Found : Type}
    {read : Text -> List Mark × Found}
    (reads : ReadsMarks read)
    {written rest : Text}
    {forest : List Fragment}
    (isWritten : Spells written forest)
    (startsWithTag : StartsWithTag (read rest).1) :
    ∃ marks fragments,
      read (written ++ rest) = (marks ++ (read rest).1, (read rest).2) ∧
        forest? [] [] marks = some fragments ∧
        Fragment.solid fragments = Fragment.solid forest := by
  obtain ⟨spaced, isSpaced, rfl⟩ := isWritten
  have isClean := isSpaced.clean [] .nil
  have same := isSpaced.same []
  rw [List.append_nil] at isClean
  rw [List.append_nil, List.append_nil] at same
  have made := isClean.forest?_marksAll [] [] []
  rw [List.append_nil, List.nil_append, forest?] at made
  refine ⟨_, _, ?_, made, by rw [Fragment.solid_merged, same]⟩
  rw [← Fragment.htmlAll_merged]
  exact isClean.read_htmlAll reads startsWithTag

end Markup
end CellPreview
