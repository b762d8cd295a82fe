import CellPreview.Markup.Html
import CellPreview.Proofs.Markup.Walk

/-!
# Fragments

Fragments are what a reader of HTML sees: texts, and elements with a name and
attributes. The sanitised form of a tree has the children of an element in its
place when its tag is no name, the style as an attribute before the others, no
attribute whose name is none, and no two texts side by side. The tree without
indentation is written as its sanitised form.
-/

namespace CellPreview
namespace Markup

/-- A text, or an element with its attributes in order. -/
inductive Fragment
  | text (content : Text)
  | element
      (name : Text)
      (attributes : List (Text × Text))
      (children : List Fragment)

/-- How the attributes of a start tag are written. -/
def attributesText (attributes : List (Text × Text)) : Text :=
  attributes.flatMap fun (name, value) => attributeText name value

theorem attributesText_cons
    (entry : Text × Text)
    (others : List (Text × Text)) :
    attributesText (entry :: others) =
      attributeText entry.1 entry.2 ++ attributesText others := rfl

namespace Fragment

mutual

/-- The texts in a fragment, in document order. -/
def textContent : Fragment -> Text
  | .text content => content
  | .element _ _ children => textContentAll children

/-- The texts in some fragments, in document order. -/
def textContentAll : List Fragment -> Text
  | [] => []
  | fragment :: others => fragment.textContent ++ textContentAll others

end

mutual

/-- How a fragment is written. -/
def html : Fragment -> Text
  | .text content => escapedText content
  | .element name attributes children =>
      elementHtml name (attributesText attributes) (htmlAll children) [] false

/-- How some fragments are written, one after the other. -/
def htmlAll : List Fragment -> Text
  | [] => []
  | fragment :: others => fragment.html ++ htmlAll others

end

@[simp] theorem textContentAll_append (first second : List Fragment) :
    textContentAll (first ++ second) =
      textContentAll first ++ textContentAll second := by
  induction first with
  | nil => simp [textContentAll]
  | cons fragment others inductionHypothesis =>
      simp [textContentAll, inductionHypothesis]

@[simp] theorem htmlAll_append (first second : List Fragment) :
    htmlAll (first ++ second) = htmlAll first ++ htmlAll second := by
  induction first with
  | nil => simp [htmlAll]
  | cons fragment others inductionHypothesis =>
      simp [htmlAll, inductionHypothesis]

/-- Put a text in front of some fragments, joined with the first of them if that
is a text too. An empty text adds nothing. -/
def consText (content : Text) : List Fragment -> List Fragment
  | .text other :: others => .text (content ++ other) :: others
  | others => if content.isEmpty then others else .text content :: others

/-- Fragments with adjacent texts joined and without empty texts. -/
def merged : List Fragment -> List Fragment
  | [] => []
  | .text content :: others => consText content (merged others)
  | .element name attributes children :: others =>
      .element name attributes children :: merged others

theorem textContentAll_consText (content : Text) (others : List Fragment) :
    textContentAll (consText content others) =
      content ++ textContentAll others := by
  unfold consText
  split
  · simp [textContentAll, textContent]
  · split
    · simp_all
    · simp [textContentAll, textContent]

theorem htmlAll_consText (content : Text) (others : List Fragment) :
    htmlAll (consText content others) =
      escapedText content ++ htmlAll others := by
  unfold consText
  split
  · simp [htmlAll, html, escapedText]
  · split
    · simp_all [escapedText]
    · simp [htmlAll, html]

/-- Joining texts changes no text. -/
@[simp] theorem textContentAll_merged (fragments : List Fragment) :
    textContentAll (merged fragments) = textContentAll fragments := by
  fun_induction merged fragments with
  | case1 => rfl
  | case2 content others inductionHypothesis =>
      rw [textContentAll_consText, inductionHypothesis, textContentAll,
        textContent]
  | case3 name attributes children others inductionHypothesis =>
      rw [textContentAll, textContentAll, inductionHypothesis]

/-- Joined texts are written as the texts are. -/
@[simp] theorem htmlAll_merged (fragments : List Fragment) :
    htmlAll (merged fragments) = htmlAll fragments := by
  fun_induction merged fragments with
  | case1 => rfl
  | case2 content others inductionHypothesis =>
      rw [htmlAll_consText, inductionHypothesis, htmlAll, html]
  | case3 name attributes children others inductionHypothesis =>
      rw [htmlAll, htmlAll, inductionHypothesis]

end Fragment

/-! ## Sanitising -/

/-- The attributes that an element shows: its style, unless it is empty, and
then those with a proper name. -/
def shownAttributes (style attributes : Entries Text) : Entries Text :=
  (if style.isEmpty then [] else [("style".toList, styleText style)]) ++
    attributes.filter fun (name, _) => isAttributeName name

theorem joined_nil (parts : List Text) : Text.joined [] parts = parts.flatten := by
  rw [Text.joined]
  fun_induction List.intersperse [] parts with
  | case1 | case2 => rfl
  | case3 part others notNil inductionHypothesis =>
      simp [inductionHypothesis]

namespace Node

mutual

/-- The fragments of a tree before adjacent texts are joined. -/
def spliced : Node -> List Fragment
  | .text content => [.text content]
  | .element tag style attributes children =>
      if isTagName tag then
        [.element tag (shownAttributes style attributes)
          (Fragment.merged (splicedAll children))]
      else
        splicedAll children

/-- The fragments of some trees before adjacent texts are joined. -/
def splicedAll : List Node -> List Fragment
  | [] => []
  | node :: others => node.spliced ++ splicedAll others

end

/-- The sanitised form of a tree. -/
def sanitised (node : Node) : List Fragment :=
  Fragment.merged node.spliced

mutual

theorem textContentAll_spliced (node : Node) :
    Fragment.textContentAll node.spliced = node.textContent := by
  cases node with
  | text content =>
      simp [spliced, Fragment.textContentAll, Fragment.textContent]
  | element tag style attributes children =>
      rw [spliced, textContent_element]
      split
      · simp [Fragment.textContentAll, Fragment.textContent,
          textContentAll_splicedAll children]
      · exact textContentAll_splicedAll children

theorem textContentAll_splicedAll (nodes : List Node) :
    Fragment.textContentAll (splicedAll nodes) =
      nodes.flatMap textContent := by
  cases nodes with
  | nil => simp [splicedAll, Fragment.textContentAll]
  | cons node others =>
      simp [splicedAll, textContentAll_spliced node,
        textContentAll_splicedAll others]

end

/-- Sanitising keeps all texts. -/
theorem textContentAll_sanitised (node : Node) :
    Fragment.textContentAll node.sanitised = node.textContent := by
  rw [sanitised, Fragment.textContentAll_merged, textContentAll_spliced]

/-- The attributes of a start tag are those that are shown. -/
theorem tagAttributes_eq (style attributes : Entries Text) :
    tagAttributes style attributes =
      attributesText (shownAttributes style attributes) := by
  have named : attributesText (attributes.filter fun (name, _) =>
        isAttributeName name) =
      attributes.flatMap fun (name, value) =>
        if isAttributeName name then attributeText name value else [] := by
    induction attributes with
    | nil => rfl
    | cons entry others inductionHypothesis =>
        by_cases isName : isAttributeName entry.1 <;>
          simp [isName, attributesText_cons, inductionHypothesis]
  rw [tagAttributes, shownAttributes, attributesText, List.flatMap_append,
    ← attributesText, ← attributesText, named]
  split <;> simp [attributesText]

/-- Texts are written as they are when an element stands among them. -/
theorem htmlAll_of_allTexts
    {nodes : List Node}
    (areTexts : allTexts nodes = true) :
    Fragment.htmlAll (splicedAll nodes) =
      nodes.flatMap fun node => escapedText node.ownText := by
  induction nodes with
  | nil => simp [splicedAll, Fragment.htmlAll]
  | cons node others inductionHypothesis =>
      rw [allTexts, List.all_cons, Bool.and_eq_true] at areTexts
      cases node with
      | text content =>
          simp [splicedAll, spliced, Fragment.htmlAll, Fragment.html, ownText,
            inductionHypothesis areTexts.2]
      | element => cases areTexts.1

mutual

theorem toHtml_eq_htmlAll_spliced (node : Node) :
    node.toHtml [] [] = Fragment.htmlAll node.spliced := by
  cases node with
  | text content =>
      simp [toHtml, spliced, Fragment.htmlAll, Fragment.html]
  | element tag style attributes children =>
      rw [toHtml, spliced]
      have parts := flatten_htmlParts children
      split
      · rw [Fragment.htmlAll, Fragment.html, Fragment.htmlAll_merged,
          ← tagAttributes_eq, Fragment.htmlAll]
        simp only [List.append_nil]
        split
        · rw [htmlAll_of_allTexts ‹_›]
        · simpa using congrArg (fun inside =>
            elementHtml tag (tagAttributes style attributes) inside [] false)
            parts
      · simpa [joined_nil] using parts

theorem flatten_htmlParts (nodes : List Node) :
    (htmlParts [] [] nodes).flatten =
      Fragment.htmlAll (splicedAll nodes) := by
  cases nodes with
  | nil => simp [htmlParts, splicedAll, Fragment.htmlAll]
  | cons node others =>
      simp [htmlParts, splicedAll, toHtml_eq_htmlAll_spliced node,
        flatten_htmlParts others]

end

/-- Without indentation, a tree is written as its sanitised form. -/
theorem toHtml_eq_htmlAll (node : Node) :
    node.toHtml [] [] = Fragment.htmlAll node.sanitised := by
  rw [toHtml_eq_htmlAll_spliced, sanitised, Fragment.htmlAll_merged]

end Node

/-! ## Clean forests -/

/-- Fragments with proper names, and with texts that are not empty and do not
stand side by side. -/
inductive IsClean : List Fragment -> Prop
  | nil : IsClean []
  | text {content : Text} {others : List Fragment} :
      content ≠ [] ->
      (∀ other rest, others ≠ .text other :: rest) ->
      IsClean others ->
      IsClean (.text content :: others)
  | element {name : Text} {attributes : List (Text × Text)}
      {children others : List Fragment} :
      isTagName name ->
      (∀ entry ∈ attributes, isAttributeName entry.1) ->
      IsClean children ->
      IsClean others ->
      IsClean (.element name attributes children :: others)

theorem IsClean.consText
    {others : List Fragment}
    (isClean : IsClean others)
    (content : Text) :
    IsClean (Fragment.consText content others) := by
  unfold Fragment.consText
  split
  · cases isClean with
    | text nonempty apart rest =>
        exact .text (List.append_ne_nil_of_right_ne_nil content nonempty) apart
          rest
  · rename_i noText
    split
    · exact isClean
    · rename_i nonempty
      exact .text (nonempty ∘ List.isEmpty_iff.mpr) noText isClean

theorem isAttributeName_of_mem_shownAttributes
    {style attributes : Entries Text}
    {entry : Text × Text}
    (shown : entry ∈ shownAttributes style attributes) :
    isAttributeName entry.1 := by
  rw [shownAttributes, List.mem_append] at shown
  obtain isStyle | isOther := shown
  · split at isStyle
    · cases isStyle
    · have isName : isAttributeName "style" := by decide +kernel
      rw [List.mem_singleton.mp isStyle]
      exact isName
  · exact (List.mem_filter.mp isOther).2

namespace Node

mutual

/-- What a tree is spliced to stays clean in front of clean fragments. -/
theorem isClean_merged_spliced
    (node : Node)
    {others : List Fragment}
    (isClean : IsClean (Fragment.merged others)) :
    IsClean (Fragment.merged (node.spliced ++ others)) := by
  cases node with
  | text content =>
      rw [spliced, List.singleton_append, Fragment.merged]
      exact isClean.consText content
  | element tag style attributes children =>
      rw [spliced]
      split
      · rename_i isName
        have childrenClean :=
          @isClean_merged_splicedAll children [] .nil
        rw [List.append_nil] at childrenClean
        rw [List.singleton_append, Fragment.merged]
        exact .element isName
          (fun _ shown => isAttributeName_of_mem_shownAttributes shown)
          childrenClean isClean
      · exact isClean_merged_splicedAll children isClean

theorem isClean_merged_splicedAll
    (nodes : List Node)
    {others : List Fragment}
    (isClean : IsClean (Fragment.merged others)) :
    IsClean (Fragment.merged (splicedAll nodes ++ others)) := by
  cases nodes with
  | nil =>
      rw [splicedAll, List.nil_append]
      exact isClean
  | cons node rest =>
      rw [splicedAll, List.append_assoc]
      exact isClean_merged_spliced node (isClean_merged_splicedAll rest isClean)

end

/-- The sanitised form of a tree is clean. -/
theorem isClean_sanitised (node : Node) : IsClean node.sanitised := by
  have isClean := @isClean_merged_spliced node [] .nil
  rwa [List.append_nil] at isClean

end Node
end Markup
end CellPreview
