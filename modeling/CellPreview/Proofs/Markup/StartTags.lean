import CellPreview.Proofs.Markup.Spacing
import Mathlib.Data.List.Nodup

/-!
# Start tags

The HTML of a tree has one start tag for each element with a proper tag, in
document order, whatever the indentation is. The attributes of an element have
different names, and so have those of its start tag, unless one of them is named
as the style that stands in front of them.
-/

namespace CellPreview
namespace Markup

/-- A start tag, or a tag that closes itself. -/
structure StartTag where
  name : Text
  attributes : Entries Text
  deriving DecidableEq

namespace StartTag

/-- Names of the attributes, in order. -/
def names (tag : StartTag) : List Text :=
  Entries.names tag.attributes

end StartTag

/-- The start tag that a mark is, if it is one. -/
def Mark.startTag? : Mark -> Option StartTag
  | .start name attributes | .empty name attributes => some ⟨name, attributes⟩
  | .text _ | .stop _ => none

/-- The start tags of a text, in order. -/
def TagReader.startTags (text : Text) : List StartTag :=
  (marks text).filterMap Mark.startTag?

/-- The start tag of an element, unless its tag is no name. -/
def Node.startTag? : Node -> Option StartTag
  | .text _ => none
  | .element tag style attributes _ =>
      if isTagName tag then some ⟨tag, shownAttributes style attributes⟩
      else none

namespace Fragment

mutual

/-- The start tags of a fragment, in document order. -/
def startTags : Fragment -> List StartTag
  | .text _ => []
  | .element name attributes children =>
      ⟨name, attributes⟩ :: startTagsAll children

/-- The start tags of some fragments, in document order. -/
def startTagsAll : List Fragment -> List StartTag
  | [] => []
  | fragment :: others => fragment.startTags ++ startTagsAll others

end

@[simp] theorem startTagsAll_append (first second : List Fragment) :
    startTagsAll (first ++ second) =
      startTagsAll first ++ startTagsAll second := by
  induction first with
  | nil => rw [startTagsAll]; rfl
  | cons fragment others inductionHypothesis =>
      rw [List.cons_append, startTagsAll, startTagsAll, inductionHypothesis,
        List.append_assoc]

mutual

/-- The start tags of a fragment are among the marks it is written with. -/
theorem filterMap_startTag?_marks (fragment : Fragment) :
    fragment.marks.filterMap Mark.startTag? = fragment.startTags := by
  cases fragment with
  | text content => rw [marks, startTags]; rfl
  | element name attributes children =>
      rw [marks, startTags, ← filterMap_startTag?_marksAll children]
      split
      next isEmpty =>
        rw [List.isEmpty_iff.mp isEmpty, marksAll]
        rfl
      next => simp [Mark.startTag?]

theorem filterMap_startTag?_marksAll (forest : List Fragment) :
    (marksAll forest).filterMap Mark.startTag? = startTagsAll forest := by
  cases forest with
  | nil => rw [marksAll, startTagsAll]; rfl
  | cons fragment others =>
      rw [marksAll, startTagsAll, List.filterMap_append,
        filterMap_startTag?_marks fragment, filterMap_startTag?_marksAll others]

end

/-! ## Texts hide no tag -/

theorem startTagsAll_consText (content : Text) (others : List Fragment) :
    startTagsAll (consText content others) = startTagsAll others := by
  unfold consText
  split
  · rw [startTagsAll, startTagsAll, startTags, startTags]
  · split
    next => rfl
    next => rw [startTagsAll, startTags, List.nil_append]

/-- Joining texts changes no start tag. -/
theorem startTagsAll_merged (fragments : List Fragment) :
    startTagsAll (merged fragments) = startTagsAll fragments := by
  fun_induction merged fragments with
  | case1 => rfl
  | case2 content others inductionHypothesis =>
      rw [startTagsAll_consText, inductionHypothesis, startTagsAll, startTags,
        List.nil_append]
  | case3 name attributes children others inductionHypothesis =>
      rw [startTagsAll, startTagsAll, inductionHypothesis]

mutual

theorem startTagsAll_consSolid (others : List Fragment) (fragment : Fragment) :
    startTagsAll (consSolid others fragment) =
      fragment.startTags ++ startTagsAll others := by
  cases fragment with
  | text content =>
      rw [consSolid, startTagsAll_consText, startTags, List.nil_append]
  | element name attributes children =>
      rw [consSolid, startTagsAll, startTags, startTags,
        startTagsAll_solid children]

/-- Leaving out blanks changes no start tag. -/
theorem startTagsAll_solid (fragments : List Fragment) :
    startTagsAll (solid fragments) = startTagsAll fragments := by
  cases fragments with
  | nil => rw [solid]
  | cons fragment others =>
      rw [solid, startTagsAll_consSolid _ fragment, startTagsAll_solid others,
        startTagsAll]

end

end Fragment

/-- The start tags of a text that spells some fragments are theirs. -/
theorem Spells.startTags
    {written : Text}
    {forest : List Fragment}
    (spells : Spells written forest) :
    TagReader.startTags written = Fragment.startTagsAll forest := by
  obtain ⟨spaced, isSpaced, rfl⟩ := spells
  have isClean := isSpaced.clean [] .nil
  have same := congrArg Fragment.startTagsAll (isSpaced.same [])
  rw [List.append_nil] at isClean
  rw [List.append_nil, List.append_nil, Fragment.startTagsAll_solid,
    Fragment.startTagsAll_solid] at same
  have read := isClean.marks_htmlAll_alone
  rw [Fragment.htmlAll_merged] at read
  rw [TagReader.startTags, read, Fragment.filterMap_startTag?_marksAll,
    Fragment.startTagsAll_merged, same]

namespace Node

mutual

theorem startTagsAll_spliced (node : Node) :
    Fragment.startTagsAll node.spliced =
      node.preorder.filterMap startTag? := by
  cases node with
  | text content =>
      rw [spliced, preorder, Fragment.startTagsAll, Fragment.startTags]
      rfl
  | element tag style attributes children =>
      have below := startTagsAll_splicedAll children
      rw [spliced, preorder]
      -- an element without a proper tag has the start tags of its children only
      split
      next isName =>
        rw [Fragment.startTagsAll, Fragment.startTags,
          Fragment.startTagsAll_merged, below, Fragment.startTagsAll,
          List.append_nil,
          List.filterMap_cons_some (by rw [startTag?, if_pos isName])]
      next noName =>
        rw [below, List.filterMap_cons_none (by rw [startTag?, if_neg noName])]

theorem startTagsAll_splicedAll (nodes : List Node) :
    Fragment.startTagsAll (splicedAll nodes) =
      (preorderAll nodes).filterMap startTag? := by
  cases nodes with
  | nil => rw [splicedAll, preorderAll, Fragment.startTagsAll]; rfl
  | cons node others =>
      rw [splicedAll, preorderAll, Fragment.startTagsAll_append,
        List.filterMap_append, startTagsAll_spliced node,
        startTagsAll_splicedAll others]

end

/-- The HTML of a tree has the start tags of its elements, in document order,
whatever the indentation is. -/
theorem startTags_toHtml
    {tab indent : Text}
    (tabBlank : ∀ char ∈ tab, Text.isBlank char)
    (indentBlank : ∀ char ∈ indent, Text.isBlank char)
    (node : Node) :
    TagReader.startTags (node.toHtml tab indent) =
      node.preorder.filterMap startTag? :=
  (node.spells_toHtml tabBlank indentBlank).startTags.trans
    (startTagsAll_spliced node)

end Node

/-! ## Names of the attributes that are shown -/

section

variable {style attributes : Entries Text}

/-- Name of the attribute that a style is written as. -/
def styleName : Text := "style"

theorem names_shownAttributes (style attributes : Entries Text) :
    Entries.names (shownAttributes style attributes) =
      (if style.isEmpty then [] else [styleName]) ++
        (Entries.names attributes).filter isAttributeName := by
  rw [shownAttributes, Entries.names, List.map_append, Entries.names,
    List.filter_map]
  congr 1
  split <;> rfl

/-- Different names are shown as different attributes, unless a style is shown
beside an attribute with its name. -/
theorem nodup_names_shownAttributes_iff
    (distinct : (Entries.names attributes).Nodup) :
    (Entries.names (shownAttributes style attributes)).Nodup ↔
      (style ≠ [] -> styleName ∉ Entries.names attributes) := by
  have isName : isAttributeName styleName := by decide +kernel
  rw [names_shownAttributes]
  cases style with
  | nil => simpa using distinct.filter _
  | cons => simp [isName, distinct.filter]

/-- No name but that of the style is shown twice, and that one no more than
twice. -/
theorem count_names_shownAttributes
    {name : Text}
    (distinct : (Entries.names attributes).Nodup)
    (repeated :
      1 < (Entries.names (shownAttributes style attributes)).count name) :
    name = styleName ∧
      (Entries.names (shownAttributes style attributes)).count name = 2 := by
  have once := List.nodup_iff_count_le_one.mp
    (distinct.filter isAttributeName) name
  rw [names_shownAttributes, List.count_append] at repeated ⊢
  by_cases isStyle : name = styleName
  · subst isStyle
    refine ⟨rfl, ?_⟩
    cases style with
    | nil =>
        rw [List.isEmpty_nil, if_pos rfl, List.count_nil] at repeated
        omega
    | cons =>
        rw [List.isEmpty_cons, if_neg Bool.false_ne_true,
          List.count_singleton_self] at repeated ⊢
        omega
  · have absent : (if style.isEmpty then [] else [styleName]).count name = 0 := by
      refine List.count_eq_zero_of_not_mem fun present => ?_
      split at present
      next => cases present
      next => exact isStyle (List.mem_singleton.mp present)
    rw [absent] at repeated
    omega

end

end Markup
end CellPreview
