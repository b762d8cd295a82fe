import CellPreview.Proofs.Markup.TagReader
import CellPreview.Proofs.Text.Blank
import CellPreview.Proofs.Text.Span

/-!
# Reading written markup

What is written for a tree is read back as its sanitised form, whatever the
strings in it are. Escaped texts have no angle bracket and escaped values no
quote, so the reader finds the tags where they were written and no others, and
a proper name ends where it was written to end.
-/

namespace CellPreview
namespace Markup
namespace TagReader

/-! ## Entities -/

theorem unescaped_cons
    {char : Char}
    (notAmpersand : char ≠ '&')
    (rest : Text) :
    unescaped (char :: rest) = char :: unescaped rest := by
  rw [unescaped.eq_def]
  split <;> simp_all

theorem unescaped_escapedTextChar (char : Char) (rest : Text) :
    unescaped (escapedTextChar char ++ rest) = char :: unescaped rest := by
  unfold escapedTextChar
  split
  · rfl
  · rfl
  · rfl
  · exact unescaped_cons ‹_› rest

theorem unescaped_escapedValueChar (char : Char) (rest : Text) :
    unescaped (escapedValueChar char ++ rest) = char :: unescaped rest := by
  unfold escapedValueChar
  split
  · rfl
  · rfl
  · rfl
  · exact unescaped_cons ‹_› rest

/-- An escaped text is read as the text, whatever follows it. -/
theorem unescaped_escapedText_append (content rest : Text) :
    unescaped (escapedText content ++ rest) = content ++ unescaped rest := by
  induction content with
  | nil => rfl
  | cons char content inductionHypothesis =>
      rw [escapedText, List.flatMap_cons, List.append_assoc,
        unescaped_escapedTextChar, ← escapedText, inductionHypothesis,
        List.cons_append]

theorem unescaped_escapedText (content : Text) :
    unescaped (escapedText content) = content := by
  have whole := unescaped_escapedText_append content []
  rwa [List.append_nil, unescaped, List.append_nil] at whole

theorem escapedText_ne_nil
    {content : Text}
    (nonempty : content ≠ []) :
    escapedText content ≠ [] := by
  intro isEmpty
  have whole := unescaped_escapedText content
  rw [isEmpty] at whole
  exact nonempty whole.symm

theorem unescaped_escapedValue (value : Text) :
    unescaped (escapedValue value) = value := by
  induction value with
  | nil => rfl
  | cons char value inductionHypothesis =>
      rw [escapedValue, List.flatMap_cons, unescaped_escapedValueChar,
        ← escapedValue, inductionHypothesis]

theorem notMem_escapedText (content : Text) : '<' ∉ escapedText content := by
  intro present
  obtain ⟨char, _, written⟩ := List.mem_flatMap.mp present
  unfold escapedTextChar at written
  split at written
  case h_4 notLess _ => exact notLess (List.mem_singleton.mp written).symm
  all_goals
    revert written
    decide +kernel

theorem notMem_escapedValue (value : Text) : '"' ∉ escapedValue value := by
  intro present
  obtain ⟨char, _, written⟩ := List.mem_flatMap.mp present
  unfold escapedValueChar at written
  split at written
  case h_4 notQuote _ => exact notQuote (List.mem_singleton.mp written).symm
  all_goals
    revert written
    decide +kernel

/-! ## Names -/

/-- Texts that are read as one name. -/
structure IsName (name : Text) : Prop where
  nonempty : name ≠ []
  nameChars : ∀ char ∈ name, isNameChar char

theorem isNameChar_of_isAlphanum
    {char : Char}
    (isAlphanum : char.isAlphanum) :
    isNameChar char := by
  have notBlank : Text.isBlank char = false := by
    have noCode : ∀ code ∈ Text.blankCodes,
        (Char.ofNat code).isAlphanum = false := by decide
    rw [Bool.eq_false_iff]
    intro isBlank
    have notAlphanum := noCode char.toNat (Text.toNat_mem_blankCodes isBlank)
    rw [Char.ofNat_toNat, isAlphanum] at notAlphanum
    cases notAlphanum
  have differs (other : Char) (notAlphanum : other.isAlphanum = false) :
      (char != other) = true := by
    rw [bne_iff_ne]
    rintro rfl
    rw [isAlphanum] at notAlphanum
    cases notAlphanum
  simp [isNameChar, notBlank, differs]

/-- A tag that passes the filter is read as one name. -/
theorem isName_of_isTagName
    {name : Text}
    (isTagName : isTagName name) :
    IsName name := by
  cases name with
  | nil => cases isTagName
  | cons first rest =>
      simp only [Markup.isTagName, Bool.and_eq_true, List.all_eq_true,
        Bool.or_eq_true, beq_iff_eq] at isTagName
      refine ⟨by simp, fun char present => ?_⟩
      obtain rfl | present := List.mem_cons.mp present
      · exact isNameChar_of_isAlphanum (by simp [Char.isAlphanum, isTagName.1])
      · obtain isAlphanum | rfl := isTagName.2 char present
        · exact isNameChar_of_isAlphanum isAlphanum
        · rfl

/-- A tag that passes the filter starts with a letter. -/
theorem head?_append_ne_of_isTagName
    {name : Text}
    (isTagName : isTagName name)
    (rest : Text) :
    (name ++ rest).head? ≠ some '!' := by
  cases name with
  | nil => cases isTagName
  | cons first others =>
      rw [Markup.isTagName, Bool.and_eq_true] at isTagName
      rintro ⟨⟩
      cases isTagName.1

/-- An attribute that passes the filter is read as one name. -/
theorem isName_of_isAttributeName
    {name : Text}
    (isAttributeName : isAttributeName name) :
    IsName name := by
  cases name with
  | nil => cases isAttributeName
  | cons first rest =>
      simp only [Markup.isAttributeName, Bool.and_eq_true, List.all_eq_true,
        Bool.or_eq_true, beq_iff_eq] at isAttributeName
      obtain ⟨starts, goesOn⟩ := isAttributeName
      refine ⟨by simp, fun char present => ?_⟩
      obtain rfl | present := List.mem_cons.mp present
      · obtain (isAlpha | rfl) | rfl := starts
        · exact isNameChar_of_isAlphanum (by simp [Char.isAlphanum, isAlpha])
        · rfl
        · rfl
      · obtain (((isAlphanum | rfl) | rfl) | rfl) | rfl := goesOn char present
        · exact isNameChar_of_isAlphanum isAlphanum
        all_goals rfl

theorem isBlank_eq_false_of_isNameChar
    {char : Char}
    (isNameChar : isNameChar char) :
    Text.isBlank char = false := by
  simp only [TagReader.isNameChar, Bool.and_eq_true] at isNameChar
  simpa using isNameChar.1.1.1.1.1.1

namespace IsName

variable {name : Text}

theorem exists_cons (isName : IsName name) :
    ∃ first rest, name = first :: rest ∧ isNameChar first := by
  obtain ⟨first, rest, rfl⟩ := List.exists_cons_of_ne_nil isName.nonempty
  exact ⟨first, rest, rfl, isName.nameChars first List.mem_cons_self⟩

/-- The space before a name is skipped. -/
theorem trimStart_append (isName : IsName name) (rest : Text) :
    Text.trimStart (' ' :: (name ++ rest)) = name ++ rest := by
  obtain ⟨first, others, rfl, isFirst⟩ := isName.exists_cons
  have isBlank : Text.isBlank ' ' = true := rfl
  simp [Text.trimStart, isBlank, isBlank_eq_false_of_isNameChar isFirst]

/-- A tag does not end with a name. -/
theorem tagEnd?_append (isName : IsName name) (rest : Text) :
    tagEnd? (name ++ rest) = none := by
  obtain ⟨first, others, rfl, isFirst⟩ := isName.exists_cons
  unfold tagEnd?
  split
  · rename_i same
    rw [(List.cons.inj same).1] at isFirst
    cases isFirst
  · rename_i same
    rw [(List.cons.inj same).1] at isFirst
    cases isFirst
  · rfl

/-- A name is read up to the first character that is of no name. -/
theorem name?_append
    (isName : IsName name)
    {first : Char}
    (stops : isNameChar first = false)
    (rest : Text) :
    name? (name ++ first :: rest) = some (name, first :: rest) := by
  have ends : ∀ char ∈ (first :: rest).head?, isNameChar char = false := by
    rintro char ⟨⟩
    exact stops
  obtain ⟨taken, dropped⟩ := Text.span_of_forall isName.nameChars ends
  rw [name?, taken, dropped]
  exact if_neg (isName.nonempty ∘ List.isEmpty_iff.mp)

end IsName

/-! ## Attributes -/

theorem value?_escapedValue (value rest : Text) :
    value? ('"' :: (escapedValue value ++ '"' :: rest)) =
      some (value, rest) := by
  have others : ∀ char ∈ escapedValue value, (char != '"') = true := by
    intro char present
    rw [bne_iff_ne]
    rintro rfl
    exact notMem_escapedValue value present
  obtain ⟨taken, dropped⟩ := @Text.span_of_forall (· != '"')
    (escapedValue value) ('"' :: rest) others (by simp)
  simp only [value?, taken, dropped, unescaped_escapedValue]

theorem attributeText_append (name value rest : Text) :
    attributeText name value ++ rest =
      ' ' :: (name ++ '=' :: '"' :: (escapedValue value ++ '"' :: rest)) := by
  simp [attributeText]

theorem attribute?_append
    {name : Text}
    (isName : IsName name)
    (value rest : Text) :
    attribute? (name ++ '=' :: '"' :: (escapedValue value ++ '"' :: rest)) =
      some ((name, value), rest) := by
  have named := @IsName.name?_append _ isName '=' rfl
    ('"' :: (escapedValue value ++ '"' :: rest))
  simp only [attribute?, named, value?_escapedValue, Option.map_some]

/-- Written attributes are read up to the end of the tag. -/
theorem attributes?_append
    {attributes : List (Text × Text)}
    (areNames : ∀ entry ∈ attributes, IsName entry.1)
    {ending rest : Text}
    {closed : Bool}
    (ends : tagEnd? ending.trimStart = some (closed, rest)) :
    attributes? (attributesText attributes ++ ending) =
      some (attributes, closed, rest) := by
  induction attributes with
  | nil => exact attributes?_of_tagEnd? ends
  | cons entry others inductionHypothesis =>
      obtain ⟨isName, othersAreNames⟩ := List.forall_mem_cons.mp areNames
      have othersRead := inductionHypothesis othersAreNames
      have found := attribute?_append isName entry.2
        (attributesText others ++ ending)
      rw [attributesText_cons, List.append_assoc, attributeText_append]
      have trimmed := isName.trimStart_append ('=' :: '"' ::
        (escapedValue entry.2 ++ '"' :: (attributesText others ++ ending)))
      rw [← trimmed] at found
      rw [attributes?_of_attribute? (by rw [trimmed, isName.tagEnd?_append])
        found, othersRead]
      rfl

/-! ## Tags -/

/-- Written attributes, or what ends a tag, end the name of the tag. -/
theorem name?_attributesText
    {name : Text}
    (isName : IsName name)
    (attributes : List (Text × Text))
    {first : Char}
    (stops : isNameChar first = false)
    (rest : Text) :
    name? (name ++ (attributesText attributes ++ first :: rest)) =
      some (name, attributesText attributes ++ first :: rest) := by
  cases attributes with
  | nil => exact isName.name?_append stops rest
  | cons entry others =>
      rw [attributesText_cons, List.append_assoc, attributeText_append]
      exact isName.name?_append rfl _

theorem tag?_of_name?
    {name rest : Text}
    (isName : IsName name)
    (text : Text)
    (named : name? (name ++ text) = some (name, rest)) :
    tag? (name ++ text) =
      (attributes? rest).map fun (attributes, closed, after) =>
        (if closed then .empty name attributes else .start name attributes,
          after) := by
  obtain ⟨first, others, rfl, isFirst⟩ := isName.exists_cons
  unfold tag?
  split
  · rename_i same
    rw [(List.cons.inj same).1] at isFirst
    cases isFirst
  · rw [named]

section

variable {name : Text} {attributes : List (Text × Text)}

theorem tag?_start
    (isName : IsName name)
    (areNames : ∀ entry ∈ attributes, IsName entry.1)
    (rest : Text) :
    tag? (name ++ (attributesText attributes ++ '>' :: rest)) =
      some (.start name attributes, rest) := by
  have ends : tagEnd? (Text.trimStart ('>' :: rest)) = some (false, rest) :=
    rfl
  rw [tag?_of_name? isName _ (name?_attributesText isName attributes rfl rest),
    attributes?_append areNames ends]
  rfl

theorem tag?_empty
    (isName : IsName name)
    (areNames : ∀ entry ∈ attributes, IsName entry.1)
    (rest : Text) :
    tag? (name ++ (attributesText attributes ++ ' ' :: '/' :: '>' :: rest)) =
      some (.empty name attributes, rest) := by
  have ends : tagEnd? (Text.trimStart (' ' :: '/' :: '>' :: rest)) =
      some (true, rest) := rfl
  rw [tag?_of_name? isName _
      (name?_attributesText isName attributes rfl ('/' :: '>' :: rest)),
    attributes?_append areNames ends]
  rfl

theorem tag?_stop
    (isName : IsName name)
    (rest : Text) :
    tag? ('/' :: (name ++ '>' :: rest)) = some (.stop name, rest) := by
  have named := @IsName.name?_append _ isName '>' rfl rest
  simp only [tag?, named]

end

/-! ## Marks -/

/-- Marks of which the first is a tag. -/
def StartsWithTag (marks : List Mark) : Prop :=
  ∀ raw others, marks ≠ .text raw :: others

/-- A way of reading marks off the start of a text, together with something that
is found in the rest. An exclamation mark after an opening bracket may stand for
something else than a tag. -/
structure ReadsMarks {Found : Type} (read : Text -> List Mark × Found) :
    Prop where
  char : ∀ {char : Char}, char ≠ '<' -> ∀ rest,
    read (char :: rest) = (consChar char (read rest).1, (read rest).2)
  tag : ∀ {mark : Mark} {rest after : Text}, rest.head? ≠ some '!' ->
    tag? rest = some (mark, after) ->
    read ('<' :: rest) = (mark :: (read after).1, (read after).2)

theorem readsMarks_marks : ReadsMarks fun text => (marks text, ()) where
  char notBracket rest := by rw [marks_cons notBracket]
  tag _ found := by rw [marks_of_tag? found]

namespace ReadsMarks

variable {Found : Type} {read : Text -> List Mark × Found}

/-- Characters without an opening bracket are read as one text. -/
theorem read_append
    (reads : ReadsMarks read)
    {raw rest : Text}
    (nonempty : raw ≠ [])
    (noBracket : '<' ∉ raw)
    (startsWithTag : StartsWithTag (read rest).1) :
    read (raw ++ rest) = (.text raw :: (read rest).1, (read rest).2) := by
  induction raw with
  | nil => exact absurd rfl nonempty
  | cons char others inductionHypothesis =>
      have notBracket : char ≠ '<' := by
        rintro rfl
        exact noBracket List.mem_cons_self
      rw [List.cons_append, reads.char notBracket]
      cases others with
      | nil =>
          rw [List.nil_append]
          unfold consChar
          split
          · exact absurd ‹_› (startsWithTag _ _)
          · rfl
      | cons second others =>
          rw [inductionHypothesis (by simp)
            (fun present => noBracket (List.mem_cons_of_mem _ present))]
          rfl

end ReadsMarks
end TagReader

namespace Fragment

mutual

/-- The marks that a fragment is written with. -/
def marks : Fragment -> List Mark
  | .text content => [.text (escapedText content)]
  | .element name attributes children =>
      if children.isEmpty then [.empty name attributes]
      else .start name attributes :: marksAll children ++ [.stop name]

/-- The marks that some fragments are written with. -/
def marksAll : List Fragment -> List Mark
  | [] => []
  | fragment :: others => fragment.marks ++ marksAll others

end

end Fragment

namespace IsClean

open TagReader

theorem htmlAll_ne_nil
    {forest : List Fragment}
    (isClean : IsClean forest)
    (nonempty : forest ≠ []) :
    Fragment.htmlAll forest ≠ [] := by
  cases isClean with
  | nil => exact absurd rfl nonempty
  | text contentNonempty =>
      rw [Fragment.htmlAll, Fragment.html]
      exact List.append_ne_nil_of_left_ne_nil
        (escapedText_ne_nil contentNonempty) _
  | element =>
      rw [Fragment.htmlAll, Fragment.html, elementHtml]
      split <;> simp

/-- Fragments that do not start with a text are written with a tag first. -/
theorem startsWithTag_append
    {forest : List Fragment}
    (apart : ∀ content others, forest ≠ .text content :: others)
    {more : List Mark}
    (startsWithTag : StartsWithTag more) :
    StartsWithTag (Fragment.marksAll forest ++ more) := by
  cases forest with
  | nil => exact startsWithTag
  | cons fragment others =>
      cases fragment with
      | text content => exact absurd rfl (apart content others)
      | element name attributes children =>
          intro raw rest same
          rw [Fragment.marksAll, Fragment.marks] at same
          split at same <;> cases same

/-- Clean fragments are read as the marks that they are written with, up to the
next tag. -/
theorem read_htmlAll
    {Found : Type}
    {read : Text -> List Mark × Found}
    (reads : ReadsMarks read)
    {forest : List Fragment}
    (isClean : IsClean forest)
    {rest : Text}
    (startsWithTag : StartsWithTag (read rest).1) :
    read (Fragment.htmlAll forest ++ rest) =
      (Fragment.marksAll forest ++ (read rest).1, (read rest).2) := by
  induction isClean generalizing rest with
  | nil => rfl
  | @text content others nonempty apart _ inductionHypothesis =>
      have othersRead := inductionHypothesis startsWithTag
      have othersStart := startsWithTag_append apart startsWithTag
      rw [Fragment.htmlAll, Fragment.html, List.append_assoc,
        reads.read_append (escapedText_ne_nil nonempty)
          (notMem_escapedText content) (by rwa [othersRead]),
        othersRead, Fragment.marksAll, Fragment.marks]
      rfl
  | @element name attributes children others isTagName areAttributeNames
      childrenClean _ childrenRead othersRead =>
      have isName := isName_of_isTagName isTagName
      have areNames : ∀ entry ∈ attributes, IsName entry.1 :=
        fun entry present =>
          isName_of_isAttributeName (areAttributeNames entry present)
      have noExclamation (after : Text) :
          (name ++ after).head? ≠ some '!' :=
        head?_append_ne_of_isTagName isTagName after
      have othersRead := othersRead startsWithTag
      rw [Fragment.htmlAll, Fragment.html, Fragment.marksAll, Fragment.marks]
      by_cases childless : children = []
      · have found := tag?_empty isName areNames
          (Fragment.htmlAll others ++ rest)
        have shape : elementHtml name (attributesText attributes)
              (Fragment.htmlAll children) [] false ++
                Fragment.htmlAll others ++ rest =
            '<' :: (name ++ (attributesText attributes ++ ' ' :: '/' :: '>' ::
              (Fragment.htmlAll others ++ rest))) := by
          simp [childless, Fragment.htmlAll, elementHtml]
        rw [shape, reads.tag (noExclamation _) found, othersRead, childless]
        rfl
      · have closing := reads.tag (by simp) (tag?_stop isName
          (Fragment.htmlAll others ++ rest))
        have found := tag?_start isName areNames
          (Fragment.htmlAll children ++ '<' :: '/' :: (name ++ '>' ::
            (Fragment.htmlAll others ++ rest)))
        have insideRead := @childrenRead ('<' :: '/' :: (name ++ '>' ::
            (Fragment.htmlAll others ++ rest))) (by
          rw [closing]
          exact nofun)
        have shape : elementHtml name (attributesText attributes)
              (Fragment.htmlAll children) [] false ++
                Fragment.htmlAll others ++ rest =
            '<' :: (name ++ (attributesText attributes ++ '>' ::
              (Fragment.htmlAll children ++ '<' :: '/' :: (name ++ '>' ::
                (Fragment.htmlAll others ++ rest))))) := by
          simp [elementHtml, childrenClean.htmlAll_ne_nil childless]
        rw [shape, reads.tag (noExclamation _) found, insideRead, closing,
          othersRead]
        simp [childless]

theorem marks_htmlAll
    {forest : List Fragment}
    (isClean : IsClean forest)
    {rest : Text}
    (startsWithTag : StartsWithTag (marks rest)) :
    marks (Fragment.htmlAll forest ++ rest) =
      Fragment.marksAll forest ++ marks rest :=
  congrArg Prod.fst (isClean.read_htmlAll readsMarks_marks startsWithTag)

/-- A text of clean fragments alone is read as the marks that they are written
with. -/
theorem marks_htmlAll_alone
    {forest : List Fragment}
    (isClean : IsClean forest) :
    marks (Fragment.htmlAll forest) = Fragment.marksAll forest := by
  have atEnd : StartsWithTag (marks []) := by
    rw [marks_nil]
    exact nofun
  have read := isClean.marks_htmlAll atEnd
  rwa [marks_nil, List.append_nil, List.append_nil] at read

/-- The marks of clean fragments make these fragments, behind those that the
innermost open element already has. -/
theorem forest?_marksAll
    {forest : List Fragment}
    (isClean : IsClean forest)
    (opened : List OpenElement)
    (done : List Fragment)
    (more : List Mark) :
    forest? opened done (Fragment.marksAll forest ++ more) =
      forest? opened (done ++ forest) more := by
  induction isClean generalizing opened done more with
  | nil => rw [Fragment.marksAll, List.nil_append, List.append_nil]
  | @text content others _ _ _ inductionHypothesis =>
      rw [Fragment.marksAll, Fragment.marks, List.append_assoc,
        List.singleton_append, forest?, inductionHypothesis,
        unescaped_escapedText, List.append_assoc, List.singleton_append]
  | @element name attributes children others _ _ _ _ childrenMade othersMade =>
      rw [Fragment.marksAll, Fragment.marks]
      by_cases childless : children = []
      · rw [childless, List.isEmpty_nil, if_pos rfl, List.append_assoc,
          List.singleton_append, forest?, othersMade, List.append_assoc,
          List.singleton_append]
      · rw [if_neg (childless ∘ List.isEmpty_iff.mp)]
        simp only [List.cons_append, List.append_assoc, List.nil_append]
        rw [forest?, childrenMade, List.nil_append, forest?, if_pos rfl,
          othersMade, List.append_assoc, List.singleton_append]

/-- Clean fragments are read back from the text that they are written as. -/
theorem read?_htmlAll
    {forest : List Fragment}
    (isClean : IsClean forest) :
    read? (Fragment.htmlAll forest) = some forest := by
  have made := isClean.forest?_marksAll [] [] []
  rw [List.append_nil, List.nil_append] at made
  rw [read?, isClean.marks_htmlAll_alone, made, forest?]

end IsClean

namespace Fragment

mutual

/-- Between its tags, a fragment is written as its escaped text. -/
theorem flatMap_raw_marks (fragment : Fragment) :
    fragment.marks.flatMap Mark.raw = escapedText fragment.textContent := by
  cases fragment with
  | text content => simp [marks, Mark.raw, textContent]
  | element name attributes children =>
      rw [marks, textContent, ← flatMap_raw_marksAll children]
      split
      · simp_all [marksAll, Mark.raw]
      · simp [Mark.raw]

theorem flatMap_raw_marksAll (forest : List Fragment) :
    (marksAll forest).flatMap Mark.raw =
      escapedText (textContentAll forest) := by
  cases forest with
  | nil => simp [marksAll, textContentAll, escapedText]
  | cons fragment others =>
      rw [marksAll, textContentAll, List.flatMap_append,
        flatMap_raw_marks fragment, flatMap_raw_marksAll others]
      simp [escapedText]

end

end Fragment

/-- What is written for a tree on one line is read as exactly its sanitised form,
and the text that is left of it without tags is the text of the tree. -/
theorem toHtml_reads_back (node : Node) :
    TagReader.read? (node.toHtml [] []) = some node.sanitised ∧
      TagReader.strippedText (node.toHtml [] []) = node.textContent := by
  have isClean := node.isClean_sanitised
  have atEnd : TagReader.StartsWithTag (TagReader.marks []) := by
    rw [TagReader.marks_nil]
    exact nofun
  have read := isClean.marks_htmlAll atEnd
  rw [TagReader.marks_nil, List.append_nil, List.append_nil,
    ← node.toHtml_eq_htmlAll] at read
  constructor
  · have made := isClean.forest?_marksAll [] [] []
    rw [List.append_nil, List.nil_append] at made
    rw [TagReader.read?, read, made, TagReader.forest?]
  · rw [TagReader.strippedText, read, Fragment.flatMap_raw_marksAll,
      TagReader.unescaped_escapedText, node.textContentAll_sanitised]

/-- An attribute without a proper name, and an element without one between two
texts. -/
example :
    (Node.element ['b'] [] [(['o', '"'], ['x']), (['i', 'd'], ['"'])]
      [.text ['<'], .element ['<'] [] [] [.text ['i']], .text []]).sanitised =
      [.element ['b'] [(['i', 'd'], ['"'])] [.text ['<', 'i']]] :=
  rfl

end Markup
end CellPreview
