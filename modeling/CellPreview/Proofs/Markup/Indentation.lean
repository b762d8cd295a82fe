import CellPreview.Proofs.Markup.ReadBack
import CellPreview.Proofs.Markup.Walk
import CellPreview.Proofs.Style.Casing

/-!
# Newlines and tabs of indented markup

An indentation adds newlines and tabs to the HTML of a tree, and one thing more:
an element for whose children nothing is written closes itself on one line, but
has both of its tags as soon as there is a newline between them. These hollow
elements are all that is left of the indentation when newlines and tabs are taken
out again.
-/

namespace CellPreview
namespace Text

/-- Newlines and tabs. -/
def isBreak (char : Char) : Bool :=
  char == '\n' || char == '\t'

/-- A text without its newlines and tabs. -/
def withoutBreaks (text : Text) : Text :=
  text.filter fun char => !isBreak char

/-- Texts that have no newlines or tabs from the start. -/
def IsUnbroken (text : Text) : Prop :=
  ∀ char ∈ text, isBreak char = false

section

variable {text first second separator : Text}
variable {parts : List Text}

theorem withoutBreaks_append (first second : Text) :
    withoutBreaks (first ++ second) =
      withoutBreaks first ++ withoutBreaks second :=
  List.filter_append ..

theorem IsUnbroken.withoutBreaks_eq (unbroken : IsUnbroken text) :
    withoutBreaks text = text := by
  rw [withoutBreaks, List.filter_eq_self]
  intro char present
  rw [unbroken char present, Bool.not_false]

theorem isUnbroken_of_all
    (noBreak : (text.all fun char => !isBreak char) = true) :
    IsUnbroken text := by
  simpa [IsUnbroken] using noBreak

theorem isUnbroken_singleton
    {char : Char}
    (notBreak : isBreak char = false) :
    IsUnbroken [char] := by
  simpa [IsUnbroken] using notBreak

theorem IsUnbroken.append
    (firstUnbroken : IsUnbroken first)
    (secondUnbroken : IsUnbroken second) :
    IsUnbroken (first ++ second) :=
  List.forall_mem_append.mpr ⟨firstUnbroken, secondUnbroken⟩

theorem IsUnbroken.flatMap
    {α : Type}
    {items : List α}
    {write : α -> Text}
    (unbroken : ∀ item ∈ items, IsUnbroken (write item)) :
    IsUnbroken (items.flatMap write) :=
  List.forall_mem_flatMap.mpr unbroken

theorem IsUnbroken.joined
    (separatorUnbroken : IsUnbroken separator)
    (unbroken : ∀ part ∈ parts, IsUnbroken part) :
    IsUnbroken (joined separator parts) := by
  unfold Text.joined
  fun_induction List.intersperse separator parts with
  | case1 => exact nofun
  | case2 part => simpa using unbroken
  | case3 part others _ inductionHypothesis =>
      rw [List.forall_mem_cons] at unbroken
      exact unbroken.1.append
        (separatorUnbroken.append (inductionHypothesis unbroken.2))

/-- Of lines that are put below each other the lines are left. -/
theorem withoutBreaks_lines (parts : List Text) :
    withoutBreaks (parts.flatMap fun part => '\n' :: part) =
      withoutBreaks parts.flatten := by
  induction parts with
  | nil => rfl
  | cons part others inductionHypothesis =>
      rw [List.flatMap_cons, withoutBreaks_append, inductionHypothesis,
        List.flatten_cons, withoutBreaks_append]
      rfl

/-- Of a separator that is made of breaks nothing is left. -/
theorem withoutBreaks_joined
    (areBreaks : withoutBreaks separator = [])
    (parts : List Text) :
    withoutBreaks (joined separator parts) = withoutBreaks parts.flatten := by
  unfold joined
  fun_induction List.intersperse separator parts with
  | case1 | case2 => rfl
  | case3 part others _ inductionHypothesis =>
      rw [List.flatten_cons, List.flatten_cons, List.flatten_cons,
        withoutBreaks_append, withoutBreaks_append, areBreaks,
        inductionHypothesis, List.nil_append, withoutBreaks_append]

end

end Text

namespace Markup

open Text (IsUnbroken withoutBreaks)

/-! ## Escaping and naming add no breaks -/

section

variable {content name value : Text}
variable {style attributes : Entries Text}

theorem isUnbroken_escapedText
    (unbroken : IsUnbroken content) :
    IsUnbroken (escapedText content) := by
  apply IsUnbroken.flatMap
  intro char present
  unfold escapedTextChar
  split
  case h_4 => exact Text.isUnbroken_singleton (unbroken char present)
  all_goals exact Text.isUnbroken_of_all (by decide)

theorem isUnbroken_escapedValue
    (unbroken : IsUnbroken value) :
    IsUnbroken (escapedValue value) := by
  apply IsUnbroken.flatMap
  intro char present
  unfold escapedValueChar
  split
  case h_4 => exact Text.isUnbroken_singleton (unbroken char present)
  all_goals exact Text.isUnbroken_of_all (by decide)

theorem isBreak_eq_false_of_isLower
    {char : Char}
    (isLower : char.isLower) :
    Text.isBreak char = false := by
  rw [Bool.eq_false_iff]
  intro isBreak
  rw [Text.isBreak, Bool.or_eq_true, beq_iff_eq, beq_iff_eq] at isBreak
  obtain rfl | rfl := isBreak <;> cases isLower

theorem isUnbroken_kebabCase
    (unbroken : IsUnbroken name) :
    IsUnbroken (Style.kebabCase name) := by
  apply IsUnbroken.flatMap
  intro char present
  split
  next isUpper =>
    have hyphen : IsUnbroken ['-'] := Text.isUnbroken_of_all (by decide)
    exact hyphen.append (Text.isUnbroken_singleton
      (isBreak_eq_false_of_isLower (Style.isLower_toLower_of_isUpper isUpper)))
  next => exact Text.isUnbroken_singleton (unbroken char present)

theorem isUnbroken_attributeText
    (nameUnbroken : IsUnbroken name)
    (valueUnbroken : IsUnbroken value) :
    IsUnbroken (attributeText name value) := by
  have space : IsUnbroken [' '] := Text.isUnbroken_of_all (by decide)
  have opening : IsUnbroken "=\"" := Text.isUnbroken_of_all (by decide)
  have closing : IsUnbroken ['"'] := Text.isUnbroken_of_all (by decide)
  exact (((space.append nameUnbroken).append opening).append
    (isUnbroken_escapedValue valueUnbroken)).append closing

theorem isUnbroken_styleText
    (unbroken : ∀ entry ∈ style,
      IsUnbroken entry.1 ∧ IsUnbroken entry.2) :
    IsUnbroken (styleText style) := by
  apply IsUnbroken.joined (Text.isUnbroken_of_all (by decide))
  intro part isPart
  obtain ⟨entry, present, rfl⟩ := List.mem_map.mp isPart
  obtain ⟨nameUnbroken, valueUnbroken⟩ := unbroken entry present
  have colon : IsUnbroken ": " := Text.isUnbroken_of_all (by decide)
  exact ((isUnbroken_kebabCase nameUnbroken).append colon).append valueUnbroken

theorem isUnbroken_tagAttributes
    (unbroken : ∀ entry ∈ style ++ attributes,
      IsUnbroken entry.1 ∧ IsUnbroken entry.2) :
    IsUnbroken (tagAttributes style attributes) := by
  rw [List.forall_mem_append] at unbroken
  apply IsUnbroken.append
  · split
    · exact nofun
    · exact isUnbroken_attributeText (Text.isUnbroken_of_all (by decide))
        (isUnbroken_styleText unbroken.1)
  · apply IsUnbroken.flatMap
    intro entry present
    obtain ⟨nameUnbroken, valueUnbroken⟩ := unbroken.2 entry present
    dsimp only
    split
    · exact isUnbroken_attributeText nameUnbroken valueUnbroken
    · exact nofun

end

/-! ## Elements with both tags -/

/-- An element that has both tags, whatever is inside of it. -/
def taggedHtml (tag attributes inside : Text) : Text :=
  '<' :: tag ++ attributes ++ ['>'] ++ inside ++ "</" ++ tag ++ ['>']

/-- The second text is the first with both tags for some elements that close
themselves there, as many as the number says. -/
inductive Unfolded : Nat -> Text -> Text -> Prop
  | same (text : Text) : Unfolded 0 text text
  | element (tag attributes : Text) :
      Unfolded 1 (elementHtml tag attributes [] [] false)
        (taggedHtml tag attributes [])
  | append {first second : Nat} {closed others unfolded rest : Text} :
      Unfolded first closed unfolded ->
      Unfolded second others rest ->
      Unfolded (first + second) (closed ++ others) (unfolded ++ rest)

theorem elementHtml_of_ne_nil
    {inside : Text}
    (nonempty : inside ≠ [])
    (tag attributes indent : Text)
    (ownLine : Bool) :
    elementHtml tag attributes inside indent ownLine =
      indent ++ taggedHtml tag attributes
        (inside ++ if ownLine then '\n' :: indent else []) := by
  rw [elementHtml, if_neg (nonempty ∘ List.isEmpty_iff.mp), taggedHtml]
  simp

namespace Unfolded

variable {count : Nat}
variable {closed unfolded : Text}

/-- Each element with both tags makes the text longer. -/
theorem length_add_le (isUnfolded : Unfolded count closed unfolded) :
    closed.length + count ≤ unfolded.length := by
  induction isUnfolded with
  | same => exact le_rfl
  | element tag attributes =>
      have opens : " />".toList.length = 3 := rfl
      have closes : "</".toList.length = 2 := rfl
      simp only [elementHtml, taggedHtml, List.isEmpty_nil, ↓reduceIte,
        List.length_append, List.length_cons, List.length_nil]
      omega
  | append _ _ firstLonger secondLonger =>
      rw [List.length_append, List.length_append]
      omega

/-- Nothing is unfolded in an empty text. -/
theorem eq_nil_of_closed_eq_nil
    (isUnfolded : Unfolded count closed unfolded)
    (isEmpty : closed = []) :
    count = 0 ∧ unfolded = [] := by
  induction isUnfolded with
  | same => exact ⟨rfl, isEmpty⟩
  | element => simp [elementHtml] at isEmpty
  | append _ _ firstEmpty secondEmpty =>
      obtain ⟨closedEmpty, othersEmpty⟩ := List.append_eq_nil_iff.mp isEmpty
      obtain ⟨rfl, rfl⟩ := firstEmpty closedEmpty
      obtain ⟨rfl, rfl⟩ := secondEmpty othersEmpty
      exact ⟨rfl, rfl⟩

theorem eq_of_count_eq_zero
    (isUnfolded : Unfolded count closed unfolded)
    (none : count = 0) :
    unfolded = closed := by
  induction isUnfolded with
  | same => rfl
  | element => cases none
  | append _ _ firstSame secondSame =>
      obtain ⟨firstNone, secondNone⟩ := Nat.add_eq_zero_iff.mp none
      rw [firstSame firstNone, secondSame secondNone]

/-- The texts are the same when no element was unfolded. -/
theorem eq_iff (isUnfolded : Unfolded count closed unfolded) :
    unfolded = closed ↔ count = 0 := by
  refine ⟨fun same => ?_, isUnfolded.eq_of_count_eq_zero⟩
  have longer := isUnfolded.length_add_le
  rw [same] at longer
  omega

/-- An element with both tags unfolds the one around the same inside, which it is
unless that closes itself. -/
theorem tagged
    (inside : Unfolded count closed unfolded)
    (tag attributes : Text) :
    Unfolded (count + if closed.isEmpty then 1 else 0)
      (elementHtml tag attributes closed [] false)
      (taggedHtml tag attributes unfolded) := by
  by_cases isEmpty : closed = []
  · obtain ⟨rfl, rfl⟩ := inside.eq_nil_of_closed_eq_nil isEmpty
    rw [isEmpty]
    exact .element tag attributes
  · rw [elementHtml_of_ne_nil isEmpty, if_neg (isEmpty ∘ List.isEmpty_iff.mp)]
    have around := (Unfolded.same ('<' :: tag ++ attributes ++ ['>'])).append
      (inside.append (.same ("</".toList ++ tag ++ ['>'])))
    simpa [taggedHtml] using around

end Unfolded

namespace Node

/-- The texts that a node has itself. -/
def ownStrings : Node -> List Text
  | .text content => [content]
  | .element tag style attributes _ =>
      tag :: (style ++ attributes).flatMap fun (name, value) => [name, value]

/-- Nodes whose own texts, tags, styles and attributes have no newlines or
tabs. -/
def AreUnbroken (nodes : List Node) : Prop :=
  ∀ node ∈ nodes, ∀ string ∈ node.ownStrings, IsUnbroken string

theorem areUnbroken_of_all
    {nodes : List Node}
    (noBreak : (nodes.all fun node => node.ownStrings.all fun string =>
      string.all fun char => !Text.isBreak char) = true) :
    AreUnbroken nodes := by
  intro node present string isOwn
  have checked := List.all_eq_true.mp noBreak node present
  exact Text.isUnbroken_of_all (List.all_eq_true.mp checked string isOwn)

/-- Elements with a proper tag, and with an element among their children, for
whose children nothing is written. -/
def isHollow : Node -> Bool
  | .text _ => false
  | .element tag _ _ children =>
      isTagName tag && !allTexts children &&
        (Fragment.merged (splicedAll children)).isEmpty

/-- Nothing is written for some nodes on one line if nothing is left of them. -/
theorem isEmpty_flatten_htmlParts (nodes : List Node) :
    (htmlParts [] [] nodes).flatten.isEmpty =
      (Fragment.merged (splicedAll nodes)).isEmpty := by
  have isClean := @isClean_merged_splicedAll nodes [] .nil
  rw [List.append_nil] at isClean
  rw [flatten_htmlParts, ← Fragment.htmlAll_merged]
  cases left : Fragment.merged (splicedAll nodes) with
  | nil => simp [Fragment.htmlAll]
  | cons fragment others =>
      have nonempty := isClean.htmlAll_ne_nil (by simp [left])
      rw [left] at nonempty
      simpa using nonempty

/-- No text is hollow. -/
theorem countP_isHollow_of_allTexts
    {nodes : List Node}
    (areTexts : allTexts nodes = true) :
    (preorderAll nodes).countP isHollow = 0 := by
  induction nodes with
  | nil => rw [preorderAll_nil, List.countP_nil]
  | cons node others inductionHypothesis =>
      rw [allTexts, List.all_cons, Bool.and_eq_true] at areTexts
      cases node with
      | text content =>
          rw [preorderAll_cons, preorder, List.singleton_append,
            List.countP_cons, inductionHypothesis areTexts.2]
          rfl
      | element => cases areTexts.1

section

variable {tag indent tab inside attributesHtml : Text}
variable {style attributes : Entries Text}
variable {children : List Node}

theorem isUnbroken_of_ownStrings
    (unbroken : ∀ string ∈ (element tag style attributes children).ownStrings,
      IsUnbroken string) :
    IsUnbroken tag ∧ IsUnbroken (tagAttributes style attributes) := by
  rw [ownStrings, List.forall_mem_cons, List.forall_mem_flatMap] at unbroken
  obtain ⟨tagUnbroken, unbroken⟩ := unbroken
  refine ⟨tagUnbroken, isUnbroken_tagAttributes fun entry present => ?_⟩
  have entryUnbroken := unbroken entry present
  exact ⟨entryUnbroken _ (by simp), entryUnbroken _ (by simp)⟩

theorem isUnbroken_ownTexts
    (unbroken : AreUnbroken (preorderAll children)) :
    IsUnbroken (children.flatMap fun node => escapedText node.ownText) := by
  apply IsUnbroken.flatMap
  intro node present
  cases node with
  | text content =>
      apply isUnbroken_escapedText
      refine unbroken (.text content) ?_ content List.mem_cons_self
      rw [preorderAll_eq_flatMap, List.mem_flatMap]
      exact ⟨_, present, by simp [preorder]⟩
  | element => exact isUnbroken_escapedText (Text.isUnbroken_of_all rfl)

/-- Below an element that has more than texts there is a line at least. -/
theorem lines_ne_nil
    (notTexts : ¬allTexts children = true)
    (tab indent : Text) :
    (htmlParts tab indent children).flatMap (fun part => '\n' :: part) ≠ [] := by
  cases children with
  | nil => exact absurd rfl notTexts
  | cons child others => simp [htmlParts]

theorem withoutBreaks_taggedHtml
    (tagUnbroken : IsUnbroken tag)
    (attributesUnbroken : IsUnbroken attributesHtml)
    (inside : Text) :
    withoutBreaks (taggedHtml tag attributesHtml inside) =
      taggedHtml tag attributesHtml (withoutBreaks inside) := by
  have shape (inside : Text) : taggedHtml tag attributesHtml inside =
      ['<'] ++ tag ++ attributesHtml ++ ['>'] ++ inside ++ "</" ++ tag ++
        ['>'] := rfl
  simp only [shape, Text.withoutBreaks_append, tagUnbroken.withoutBreaks_eq,
    attributesUnbroken.withoutBreaks_eq]
  rfl

/-- Of the breaks around and inside of an element with both tags nothing is
left. -/
theorem withoutBreaks_elementHtml_of_ne_nil
    (tagUnbroken : IsUnbroken tag)
    (attributesUnbroken : IsUnbroken attributesHtml)
    (indentBreaks : withoutBreaks indent = [])
    (nonempty : inside ≠ [])
    (ownLine : Bool) :
    withoutBreaks (elementHtml tag attributesHtml inside indent ownLine) =
      taggedHtml tag attributesHtml (withoutBreaks inside) := by
  have closing :
      withoutBreaks (if ownLine then '\n' :: indent else []) = [] := by
    split
    · exact indentBreaks
    · rfl
  rw [elementHtml_of_ne_nil nonempty, Text.withoutBreaks_append, indentBreaks,
    List.nil_append, withoutBreaks_taggedHtml tagUnbroken attributesUnbroken,
    Text.withoutBreaks_append, closing, List.append_nil]

/-- An element with texts only is written alike with and without an
indentation. -/
theorem withoutBreaks_elementHtml
    (tagUnbroken : IsUnbroken tag)
    (attributesUnbroken : IsUnbroken attributesHtml)
    (insideUnbroken : IsUnbroken inside)
    (indentBreaks : withoutBreaks indent = []) :
    withoutBreaks (elementHtml tag attributesHtml inside indent false) =
      elementHtml tag attributesHtml inside [] false := by
  by_cases isEmpty : inside = []
  · have shape (indent : Text) : elementHtml tag attributesHtml [] indent false =
        indent ++ (['<'] ++ tag ++ attributesHtml ++ " />") := by
      simp [elementHtml]
    rw [isEmpty, shape, shape]
    simp only [Text.withoutBreaks_append, tagUnbroken.withoutBreaks_eq,
      attributesUnbroken.withoutBreaks_eq, indentBreaks]
    rfl
  · rw [withoutBreaks_elementHtml_of_ne_nil tagUnbroken attributesUnbroken
      indentBreaks isEmpty, insideUnbroken.withoutBreaks_eq,
      elementHtml_of_ne_nil isEmpty]
    simp

end

mutual

/-- Without its newlines and tabs, an indented tree is the tree on one line with
both tags for its hollow elements. -/
theorem unfolded_toHtml
    {tab indent : Text}
    (tabBreaks : withoutBreaks tab = [])
    (indentBreaks : withoutBreaks indent = [])
    (indented : tab ≠ [])
    (node : Node)
    (unbroken : AreUnbroken node.preorder) :
    Unfolded (node.preorder.countP isHollow) (node.toHtml [] [])
      (withoutBreaks (node.toHtml tab indent)) := by
  cases node with
  | text content =>
      have contentUnbroken : IsUnbroken content :=
        unbroken (.text content) (by simp [preorder]) content List.mem_cons_self
      rw [toHtml, toHtml, Text.withoutBreaks_append, indentBreaks,
        (isUnbroken_escapedText contentUnbroken).withoutBreaks_eq, preorder]
      exact .same _
  | element tag style attributes children =>
      rw [preorder] at unbroken ⊢
      obtain ⟨own, below⟩ := List.forall_mem_cons.mp unbroken
      obtain ⟨tagUnbroken, attributesUnbroken⟩ := isUnbroken_of_ownStrings own
      have tabNonempty : tab.isEmpty = false := by simpa using indented
      rw [List.countP_cons, toHtml, toHtml, isHollow]
      by_cases isName : isTagName tag = true
      · by_cases areTexts : allTexts children = true
        · rw [if_pos isName, if_pos isName, if_pos areTexts, if_pos areTexts,
            withoutBreaks_elementHtml tagUnbroken attributesUnbroken
              (isUnbroken_ownTexts below) indentBreaks,
            countP_isHollow_of_allTexts areTexts, areTexts]
          simpa using Unfolded.same _
        · have innerBreaks : withoutBreaks (indent ++ tab) = [] := by
            rw [Text.withoutBreaks_append, indentBreaks, tabBreaks]
            rfl
          have inside := unfolded_htmlParts tabBreaks innerBreaks indented
            children below
          have tagged := inside.tagged tag (tagAttributes style attributes)
          rw [if_pos isName, if_pos isName, if_neg areTexts, if_neg areTexts,
            tabNonempty]
          simp only [List.isEmpty_nil, if_true, Bool.false_eq_true, if_false,
            Bool.not_true, List.append_nil, List.flatMap_id']
          rw [withoutBreaks_elementHtml_of_ne_nil tagUnbroken
            attributesUnbroken indentBreaks (lines_ne_nil areTexts tab _),
            Text.withoutBreaks_lines]
          rw [isEmpty_flatten_htmlParts] at tagged
          simpa [isName, areTexts] using tagged
      · have inside := unfolded_htmlParts tabBreaks indentBreaks indented
          children below
        have lineBreak : withoutBreaks ['\n'] = [] := rfl
        rw [if_neg isName, if_neg isName, tabNonempty]
        simp only [List.isEmpty_nil, if_true, Bool.false_eq_true, if_false]
        rw [joined_nil, Text.withoutBreaks_joined lineBreak]
        simpa [isName] using inside

theorem unfolded_htmlParts
    {tab indent : Text}
    (tabBreaks : withoutBreaks tab = [])
    (indentBreaks : withoutBreaks indent = [])
    (indented : tab ≠ [])
    (nodes : List Node)
    (unbroken : AreUnbroken (preorderAll nodes)) :
    Unfolded ((preorderAll nodes).countP isHollow)
      (htmlParts [] [] nodes).flatten
      (withoutBreaks (htmlParts tab indent nodes).flatten) := by
  cases nodes with
  | nil =>
      rw [htmlParts, htmlParts, preorderAll_nil]
      exact .same []
  | cons node others =>
      rw [preorderAll_cons] at unbroken ⊢
      obtain ⟨nodeUnbroken, othersUnbroken⟩ :=
        List.forall_mem_append.mp unbroken
      have first := unfolded_toHtml tabBreaks indentBreaks indented node
        nodeUnbroken
      have rest := unfolded_htmlParts tabBreaks indentBreaks indented others
        othersUnbroken
      rw [htmlParts, htmlParts, List.flatten_cons, List.flatten_cons,
        Text.withoutBreaks_append, List.countP_append]
      exact first.append rest

end

/-- When its newlines and tabs are taken out, an indented tree is the tree on one
line with both tags for each of its hollow elements, so it is the tree on one
line exactly if it has no hollow elements. -/
theorem indentation_unfolds_hollow_elements
    {node : Node}
    (unbroken : AreUnbroken node.preorder) :
    Unfolded (node.preorder.countP isHollow) (node.toHtml [] [])
        (withoutBreaks (node.toHtml ['\t'] [])) ∧
      (withoutBreaks (node.toHtml ['\t'] []) = node.toHtml [] [] ↔
        ∀ below ∈ node.preorder, ¬below.isHollow) := by
  have isUnfolded := @unfolded_toHtml ['\t'] [] rfl rfl (List.cons_ne_nil _ _)
    node unbroken
  exact ⟨isUnfolded, isUnfolded.eq_iff.trans List.countP_eq_zero⟩

/-- An element without a proper tag between texts and elements, none of them
hollow. -/
theorem indentation_unfolds_hollow_elements_none :
    let node : Node := .element ['p'] [(['a', 'B'], ['"'])] [(['c'], ['<'])]
      [.text ['x'], .element ['1'] [] [] [.text [], .element ['i'] [] [] []],
        .element ['b'] [] [] [.text []]]
    AreUnbroken node.preorder ∧
      (∀ below ∈ node.preorder, ¬below.isHollow) ∧
      withoutBreaks (node.toHtml ['\t'] []) = node.toHtml [] [] := by
  intro node
  have unbroken : AreUnbroken node.preorder :=
    areUnbroken_of_all (by decide +kernel)
  have noneHollow : ∀ below ∈ node.preorder, ¬below.isHollow := by
    have noneCounted : node.preorder.countP isHollow = 0 := by decide +kernel
    exact List.countP_eq_zero.mp noneCounted
  exact ⟨unbroken, noneHollow,
    (indentation_unfolds_hollow_elements unbroken).2.mpr noneHollow⟩

/-- An element whose only child has no proper tag and nothing in it closes itself
on one line, and not with an indentation. -/
theorem indentation_keeps_hollow_element_open :
    let node : Node := .element ['p'] [] [] [.element ['1'] [] [] []]
    AreUnbroken node.preorder ∧
      node.toHtml [] [] = "<p />".toList ∧
      node.toHtml ['\t'] [] = "<p>\n\n</p>".toList ∧
      withoutBreaks (node.toHtml ['\t'] []) ≠ node.toHtml [] [] := by
  intro node
  exact ⟨areUnbroken_of_all (by decide +kernel), by decide +kernel,
    by decide +kernel, by decide +kernel⟩

end Node
end Markup
end CellPreview
