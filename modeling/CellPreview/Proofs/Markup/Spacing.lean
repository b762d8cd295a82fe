import CellPreview.Proofs.Markup.ReadBack
import Mathlib.Data.List.Forall2

/-!
# Indented markup

The HTML of a tree with an indentation differs from its HTML on one line in the
blanks around texts and elements only. So both have the same elements, with the
same attributes and the same texts up to blanks, in the same order.
-/

namespace CellPreview
namespace Markup
namespace Fragment

/-- A text without its blanks. -/
def solidText (content : Text) : Text :=
  content.filter fun char => !Text.isBlank char

mutual

/-- Put a fragment in front of others, without the blanks in its texts. -/
def consSolid (others : List Fragment) : Fragment -> List Fragment
  | .text content => consText (solidText content) others
  | .element name attributes children =>
      .element name attributes (solid children) :: others

/-- Fragments without the blanks in their texts, with adjacent texts joined and
without empty texts. -/
def solid : List Fragment -> List Fragment
  | [] => []
  | fragment :: others => consSolid (solid others) fragment

end

theorem consText_nil (others : List Fragment) :
    consText [] others = others := by
  unfold consText
  split <;> simp

theorem consText_consText
    (first second : Text)
    (others : List Fragment) :
    consText first (consText second others) =
      consText (first ++ second) others := by
  by_cases nonempty : second = []
  · rw [nonempty, consText_nil, List.append_nil]
  · obtain _ | ⟨⟨content⟩ | ⟨name, attributes, children⟩, rest⟩ := others <;>
      simp [consText, nonempty]

theorem solidText_append (first second : Text) :
    solidText (first ++ second) = solidText first ++ solidText second :=
  List.filter_append ..

theorem solid_consText (content : Text) (others : List Fragment) :
    solid (consText content others) =
      consText (solidText content) (solid others) := by
  by_cases nonempty : content = []
  · rw [nonempty, consText_nil, solidText, List.filter_nil, consText_nil]
  · obtain _ | ⟨⟨other⟩ | ⟨name, attributes, children⟩, rest⟩ := others
    · simp [consText, nonempty, solid, consSolid]
    · rw [consText, solid, solid, consSolid, consSolid, consText_consText,
        solidText_append]
    · simp [consText, nonempty, solid, consSolid]

/-- Joining texts changes nothing but the blanks. -/
theorem solid_merged (fragments : List Fragment) :
    solid (merged fragments) = solid fragments := by
  fun_induction merged fragments with
  | case1 => rfl
  | case2 content others inductionHypothesis =>
      rw [solid_consText, inductionHypothesis, solid, consSolid]
  | case3 name attributes children others inductionHypothesis =>
      rw [solid, solid, consSolid, consSolid, inductionHypothesis]

theorem solid_append_congr
    (before : List Fragment)
    {first second : List Fragment}
    (same : solid first = solid second) :
    solid (before ++ first) = solid (before ++ second) := by
  induction before with
  | nil => exact same
  | cons fragment others inductionHypothesis =>
      rw [List.cons_append, List.cons_append, solid, solid,
        inductionHypothesis]

end Fragment

open Fragment

/-- Fragments that others become when blanks are added to their texts, whatever
follows both. -/
structure IsSpaced (spaced forest : List Fragment) : Prop where
  /-- Joining adjacent texts leaves clean fragments. -/
  clean : ∀ others, IsClean (merged others) -> IsClean (merged (spaced ++ others))
  same : ∀ others, solid (spaced ++ others) = solid (forest ++ others)

/-- A text that some fragments are written as, with blanks added. -/
def Spells (written : Text) (forest : List Fragment) : Prop :=
  ∃ spaced, IsSpaced spaced forest ∧ htmlAll spaced = written

theorem escapedTextChar_of_isBlank
    {char : Char}
    (isBlank : Text.isBlank char) :
    escapedTextChar char = [char] := by
  unfold escapedTextChar
  split
  case h_4 => rfl
  all_goals cases isBlank

theorem escapedText_of_forall_isBlank
    {blanks : Text}
    (areBlank : ∀ char ∈ blanks, Text.isBlank char) :
    escapedText blanks = blanks := by
  induction blanks with
  | nil => rfl
  | cons char others inductionHypothesis =>
      obtain ⟨isBlank, othersBlank⟩ := List.forall_mem_cons.mp areBlank
      rw [escapedText, List.flatMap_cons, escapedTextChar_of_isBlank isBlank,
        ← escapedText, inductionHypothesis othersBlank, List.singleton_append]

theorem solidText_of_forall_isBlank
    {blanks : Text}
    (areBlank : ∀ char ∈ blanks, Text.isBlank char) :
    solidText blanks = [] := by
  simpa [solidText] using areBlank

theorem isBlank_of_mem_lineBreak (tab : Text) :
    ∀ char ∈ if tab.isEmpty then [] else ['\n'], Text.isBlank char := by
  split
  · exact nofun
  · exact List.forall_mem_cons.mpr ⟨rfl, nofun⟩

/-- The indentation of an element, and then the element with what stands before
its end tag taken inside. -/
theorem elementHtml_eq (tag attributes inside indent : Text) (ownLine : Bool) :
    elementHtml tag attributes inside indent ownLine =
      indent ++ elementHtml tag attributes
        (inside ++ if ownLine && !inside.isEmpty then '\n' :: indent else [])
        [] false := by
  unfold elementHtml
  cases inside <;> cases ownLine <;> simp

namespace Spells

variable {written first second blanks : Text}
variable {forest others : List Fragment}

theorem nil : Spells [] [] :=
  ⟨[], ⟨fun _ isClean => isClean, fun _ => rfl⟩, rfl⟩

theorem text (content : Text) : Spells (escapedText content) [.text content] := by
  refine ⟨[.text content], ⟨fun others isClean => ?_, fun _ => rfl⟩, ?_⟩
  · rw [List.singleton_append, merged]
    exact isClean.consText content
  · simp [htmlAll, html]

theorem blank (areBlank : ∀ char ∈ blanks, Text.isBlank char) :
    Spells blanks [] := by
  refine ⟨[.text blanks], ⟨fun others isClean => ?_, fun others => ?_⟩, ?_⟩
  · rw [List.singleton_append, merged]
    exact isClean.consText blanks
  · rw [List.singleton_append, List.nil_append, solid, consSolid,
      solidText_of_forall_isBlank areBlank, consText_nil]
  · simp [htmlAll, html, escapedText_of_forall_isBlank areBlank]

theorem append
    (isFirst : Spells first forest)
    (isSecond : Spells second others) :
    Spells (first ++ second) (forest ++ others) := by
  -- texts may be joined across the boundary, so both parts are followed by rest
  obtain ⟨before, beforeSpaced, rfl⟩ := isFirst
  obtain ⟨after, afterSpaced, rfl⟩ := isSecond
  refine ⟨before ++ after, ⟨fun rest isClean => ?_, fun rest => ?_⟩,
    htmlAll_append before after⟩
  · rw [List.append_assoc]
    exact beforeSpaced.clean _ (afterSpaced.clean rest isClean)
  · rw [List.append_assoc, beforeSpaced.same, List.append_assoc,
      solid_append_congr forest (afterSpaced.same rest)]

/-- Blanks are added in front of a text that is written. -/
theorem blank_append
    (areBlank : ∀ char ∈ blanks, Text.isBlank char)
    (isWritten : Spells written forest) :
    Spells (blanks ++ written) forest :=
  (blank areBlank).append isWritten

/-- Blanks are added behind a text that is written. -/
theorem append_blank
    (isWritten : Spells written forest)
    (areBlank : ∀ char ∈ blanks, Text.isBlank char) :
    Spells (written ++ blanks) forest := by
  simpa using isWritten.append (blank areBlank)

/-- Tags are written around what is inside of an element. -/
theorem element
    {name : Text}
    {attributes : List (Text × Text)}
    (isName : isTagName name)
    (areNames : ∀ entry ∈ attributes, isAttributeName entry.1)
    (inside : Spells written forest) :
    Spells (elementHtml name (attributesText attributes) written [] false)
      [.element name attributes (merged forest)] := by
  obtain ⟨spaced, isSpaced, rfl⟩ := inside
  refine ⟨[.element name attributes (merged spaced)],
    ⟨fun others isClean => ?_, fun others => ?_⟩, ?_⟩
  · have inner := isSpaced.clean [] .nil
    rw [List.append_nil] at inner
    exact .element isName areNames inner isClean
  · have same := isSpaced.same []
    rw [List.append_nil, List.append_nil] at same
    rw [List.singleton_append, List.singleton_append, solid, solid, consSolid,
      consSolid, solid_merged, solid_merged, same]
  · simp [htmlAll, html]

/-- An indented element has blanks before its start tag, and maybe before its
end tag. -/
theorem element_indent
    {name indent : Text}
    {attributes : List (Text × Text)}
    (isName : isTagName name)
    (areNames : ∀ entry ∈ attributes, isAttributeName entry.1)
    (indentBlank : ∀ char ∈ indent, Text.isBlank char)
    (ownLine : Bool)
    (inside : Spells written forest) :
    Spells (elementHtml name (attributesText attributes) written indent ownLine)
      [.element name attributes (merged forest)] := by
  have closingBlank : ∀ char ∈
      if ownLine && !written.isEmpty then '\n' :: indent else [],
      Text.isBlank char := by
    split
    · exact List.forall_mem_cons.mpr ⟨rfl, indentBlank⟩
    · exact nofun
  -- the blanks before the end tag belong to what is inside
  rw [elementHtml_eq]
  exact .blank_append indentBlank
    (.element isName areNames (inside.append_blank closingBlank))

/-- Parts that are written one after the other, with blanks before each. -/
theorem flatMap
    {parts : List Text}
    {forests : List (List Fragment)}
    (areBlank : ∀ char ∈ blanks, Text.isBlank char)
    (areWritten : List.Forall₂ Spells parts forests) :
    Spells (parts.flatMap fun part => blanks ++ part) forests.flatten := by
  induction areWritten with
  | nil => exact nil
  | cons isWritten _ inductionHypothesis =>
      exact (blank_append areBlank isWritten).append inductionHypothesis

/-- Parts that are written one after the other, with blanks between them. -/
theorem joined
    {parts : List Text}
    {forests : List (List Fragment)}
    (areBlank : ∀ char ∈ blanks, Text.isBlank char)
    (areWritten : List.Forall₂ Spells parts forests) :
    Spells (Text.joined blanks parts) forests.flatten := by
  induction areWritten with
  | nil => exact nil
  | cons isWritten others inductionHypothesis =>
      cases others with
      | nil => simpa [Text.joined] using isWritten
      | cons =>
          have rest := blank_append areBlank inductionHypothesis
          simpa [Text.joined] using isWritten.append rest

end Spells

namespace Node

theorem flatten_map_spliced (nodes : List Node) :
    (nodes.map spliced).flatten = splicedAll nodes := by
  induction nodes with
  | nil => rw [splicedAll]; rfl
  | cons node others inductionHypothesis =>
      rw [splicedAll, List.map_cons, List.flatten_cons, inductionHypothesis]

theorem spells_ownTexts
    {nodes : List Node}
    (areTexts : allTexts nodes = true) :
    Spells (nodes.flatMap fun node => escapedText node.ownText)
      (splicedAll nodes) := by
  induction nodes with
  | nil => rw [splicedAll]; exact .nil
  | cons node others inductionHypothesis =>
      rw [allTexts, List.all_cons, Bool.and_eq_true] at areTexts
      cases node with
      | text content =>
          rw [splicedAll, spliced]
          exact (Spells.text content).append (inductionHypothesis areTexts.2)
      | element => cases areTexts.1

mutual

/-- With an indentation too, a tree is written as its sanitised form. -/
theorem spells_toHtml
    {tab indent : Text}
    (tabBlank : ∀ char ∈ tab, Text.isBlank char)
    (indentBlank : ∀ char ∈ indent, Text.isBlank char)
    (node : Node) :
    Spells (node.toHtml tab indent) node.spliced := by
  cases node with
  | text content =>
      rw [toHtml, spliced]
      exact .blank_append indentBlank (.text content)
  | element tag style attributes children =>
      have lineBreakBlank := isBlank_of_mem_lineBreak tab
      have areNames : ∀ entry ∈ shownAttributes style attributes,
          isAttributeName entry.1 :=
        fun _ shown => isAttributeName_of_mem_shownAttributes shown
      rw [toHtml, spliced, tagAttributes_eq]
      split
      next isName =>
        split
        next areTexts =>
          exact (spells_ownTexts areTexts).element_indent isName areNames
            indentBlank false
        next =>
          have parts := spells_htmlParts tabBlank
            (List.forall_mem_append.mpr ⟨indentBlank, tabBlank⟩) children
          have inside := Spells.flatMap lineBreakBlank parts
          -- each child is on a line of its own, unless all are on one line
          have lines : (fun part : Text =>
                (if tab.isEmpty then [] else ['\n']) ++ part) =
              fun part => if tab.isEmpty then part else '\n' :: part := by
            funext part
            split <;> rfl
          rw [flatten_map_spliced, lines] at inside
          exact inside.element_indent isName areNames indentBlank _
      next =>
        have parts := spells_htmlParts tabBlank indentBlank children
        rw [← flatten_map_spliced]
        exact .joined lineBreakBlank parts

theorem spells_htmlParts
    {tab indent : Text}
    (tabBlank : ∀ char ∈ tab, Text.isBlank char)
    (indentBlank : ∀ char ∈ indent, Text.isBlank char)
    (nodes : List Node) :
    List.Forall₂ Spells (htmlParts tab indent nodes) (nodes.map spliced) := by
  cases nodes with
  | nil => rw [htmlParts]; exact .nil
  | cons node others =>
      rw [htmlParts]
      exact .cons (spells_toHtml tabBlank indentBlank node)
        (spells_htmlParts tabBlank indentBlank others)

end

end Node
end Markup
end CellPreview
