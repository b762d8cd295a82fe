import CellPreview.Proofs.Markup.StartTags
import CellPreview.Proofs.Rendering.Styles

/-!
# Attributes on their way to the markup

Each element that is shown has one start tag in the HTML, with its style as an
attribute in front of its own attributes. The names of these differ in every
document, but nothing keeps one of them from being that of the style. So a start
tag has an attribute twice exactly for an element with both, and this attribute
is the style.
-/

namespace CellPreview
namespace Blueprint

/-- The attributes of any one element have different names. -/
def HasDistinctAttributes (blueprint : Blueprint) : Prop :=
  ∀ place element, blueprint.at? place = some element ->
    (Entries.names element.attributes).Nodup

/-- An element with a proper tag that has a style and an attribute with the name
of the style. -/
def RepeatsStyle (element : Blueprint) : Prop :=
  (∃ tag, element.tag = some tag ∧ Markup.isTagName tag) ∧
    element.style ≠ [] ∧
    Markup.styleName ∈ Entries.names element.attributes

/-- The start tag of an element in a context, unless its tag is no name. -/
def startTag? (context : Formula.Context) (element : Blueprint) :
    Option Markup.StartTag :=
  (element.tag.filter Markup.isTagName).map fun tag =>
    ⟨tag, Markup.shownAttributes (Style.resolve context element.style)
      (evaluateEntries context element.attributes)⟩

section

variable {context : Formula.Context}

/-! ## Documents -/

/-- The names of the attributes of an element that was read differ. -/
theorem nodup_names_attributes
    {levels : Nat}
    {value : Json.Value}
    (readable : value.isReadable levels) :
    (Entries.names (ofValue value).attributes).Nodup := by
  cases value with
  | object fields =>
      cases levels with
      | zero => cases readable
      | succ levels =>
          rw [ofValue, attributes]
          exact nodup_names_scalarEntries
            (isReadable_of_find? readable attributesKey)
  | _ =>
      rw [ofValue]
      · exact .nil
      · rintro fields ⟨⟩

theorem hasDistinctAttributes_of_read
    {text : Text}
    {document : Blueprint}
    (isRead : read text = .ok (some document)) :
    document.HasDistinctAttributes := by
  intro place element found
  obtain ⟨value, valueRead, rfl⟩ := exists_value_of_read isRead
  obtain ⟨item, fewer, readable, rfl⟩ :=
    exists_value_of_at? (Json.isReadable_of_read valueRead) found
  exact nodup_names_attributes readable

/-! ## Start tags of what is shown -/

theorem names_evaluateEntries
    (context : Formula.Context)
    (entries : Entries Text) :
    Entries.names (evaluateEntries context entries) = Entries.names entries := by
  rw [Entries.names, evaluateEntries, List.map_map]
  rfl

/-- Nothing is lost of a style to the point that it vanishes. -/
theorem resolve_eq_nil_iff {style : Entries Text} :
    Style.resolve context style = [] ↔ style = [] := by
  constructor
  · intro isEmpty
    have named := Style.names_resolve context style
    rw [isEmpty] at named
    cases style with
    | nil => rfl
    | cons entry others =>
        simp [Entries.names, List.eraseDups_cons] at named
  · rintro rfl
    rfl

theorem startTag?_eq_some
    {element : Blueprint}
    {found : Markup.StartTag} :
    element.startTag? context = some found ↔
      ∃ tag, (element.tag = some tag ∧ Markup.isTagName tag) ∧
        ⟨tag, Markup.shownAttributes (Style.resolve context element.style)
          (evaluateEntries context element.attributes)⟩ = found := by
  simp [startTag?, Option.map_eq_some_iff, Option.filter_eq_some_iff]

/-- A start tag has an attribute twice only where an element repeats its
style. -/
theorem nodup_names_of_startTag?
    {element : Blueprint}
    {found : Markup.StartTag}
    (distinct : (Entries.names element.attributes).Nodup)
    (isTag : element.startTag? context = some found) :
    found.names.Nodup ↔ ¬element.RepeatsStyle := by
  obtain ⟨tag, tagged, rfl⟩ := startTag?_eq_some.mp isTag
  rw [← names_evaluateEntries context] at distinct
  rw [Markup.StartTag.names, Markup.nodup_names_shownAttributes_iff distinct,
    names_evaluateEntries, ne_eq, resolve_eq_nil_iff, RepeatsStyle, not_and,
    not_and]
  exact ⟨fun apart _ => apart, fun apart => apart ⟨tag, tagged⟩⟩

theorem startTag?_of_render
    {blueprint : Blueprint}
    {node : Markup.Node}
    (rendered : blueprint.render context = some node) :
    node.startTag? = blueprint.startTag? context := by
  obtain ⟨tag, isTag, rfl⟩ := render_eq_some.mp rendered
  rw [startTag?, isTag, Markup.Node.startTag?, Option.filter_some]
  split <;> rfl

theorem filterMap_startTag?_textNodes (content : Text) :
    (Markup.Node.preorderAll (textNodes content)).filterMap
      Markup.Node.startTag? = [] := by
  cases content <;> rfl

mutual

/-- The markup has the start tags of the elements that are shown. -/
theorem filterMap_startTag?_of_render
    (blueprint : Blueprint)
    {node : Markup.Node}
    (rendered : blueprint.render context = some node) :
    node.preorder.filterMap Markup.Node.startTag? =
      blueprint.outline.filterMap fun shown => shown.2.startTag? context := by
  cases blueprint with
  | element tag content style attributes children =>
      have first := startTag?_of_render rendered
      have below := filterMap_startTag?_renderAll 0 children
      obtain ⟨tag, rfl, rfl⟩ := render_eq_some.mp rendered
      rw [Markup.Node.preorder_eq, outline, List.filterMap_cons,
        List.filterMap_cons, first, Markup.Node.children,
        Markup.Node.preorderAll_append, List.filterMap_append,
        filterMap_startTag?_textNodes, List.nil_append, Blueprint.children, below]

theorem filterMap_startTag?_renderAll
    (start : Nat)
    (children : List Blueprint) :
    (Markup.Node.preorderAll (renderAll context children)).filterMap
        Markup.Node.startTag? =
      (outlineFrom start children).filterMap fun shown =>
        shown.2.startTag? context := by
  cases children with
  | nil => simp [renderAll, outlineFrom]
  | cons child others =>
      rw [renderAll, outlineFrom, Markup.Node.preorderAll_append,
        List.filterMap_append, List.filterMap_append, List.filterMap_map,
        filterMap_startTag?_renderAll (start + 1) others]
      cases rendered : child.render context with
      | none =>
          simp [outline_of_tag_eq_none (render_eq_none.mp rendered)]
      | some node =>
          have same := filterMap_startTag?_of_render child rendered
          simp [same]

end

/-- The HTML of a blueprint has the start tags of the elements that are shown, in
document order. All attributes of each of them have different names exactly if
no element that is shown repeats its style. If it does, its start tag has the
style twice, and no start tag has any other attribute twice. -/
theorem start_tags_repeat_styles_only
    {blueprint : Blueprint}
    {node : Markup.Node}
    {tab indent : Text}
    (distinct : blueprint.HasDistinctAttributes)
    (rendered : blueprint.render context = some node)
    (tabBlank : ∀ char ∈ tab, Text.isBlank char)
    (indentBlank : ∀ char ∈ indent, Text.isBlank char) :
    let tags := Markup.TagReader.startTags (node.toHtml tab indent)
    tags = blueprint.outline.filterMap
        (fun shown => shown.2.startTag? context) ∧
      ((∀ tag ∈ tags, tag.names.Nodup) ↔
        ∀ shown ∈ blueprint.outline, ¬shown.2.RepeatsStyle) ∧
      ∀ tag ∈ tags, ∀ name, 1 < tag.names.count name ->
        name = Markup.styleName ∧ tag.names.count name = 2 := by
  intro tags
  have isTags : tags = blueprint.outline.filterMap
      (fun shown => shown.2.startTag? context) :=
    (node.startTags_toHtml tabBlank indentBlank).trans
      (filterMap_startTag?_of_render blueprint rendered)
  have differ : ∀ shown ∈ blueprint.outline,
      (Entries.names shown.2.attributes).Nodup :=
    fun shown isShown => distinct _ _ (mem_outline.mp isShown).2
  refine ⟨isTags, ?_, ?_⟩
  · rw [isTags]
    constructor
    · intro allDiffer shown isShown repeatsStyle
      obtain ⟨tag, isProper⟩ := repeatsStyle.1
      have isStart : shown.2.startTag? context = some _ :=
        startTag?_eq_some.mpr ⟨tag, isProper, rfl⟩
      have distinctNames :=
        allDiffer _ (List.mem_filterMap.mpr ⟨shown, isShown, isStart⟩)
      exact (nodup_names_of_startTag? (differ shown isShown) isStart).mp
        distinctNames repeatsStyle
    · intro noneRepeats tag present
      obtain ⟨shown, isShown, isStart⟩ := List.mem_filterMap.mp present
      exact (nodup_names_of_startTag? (differ shown isShown) isStart).mpr
        (noneRepeats shown isShown)
  · rw [isTags]
    intro tag present name repeated
    obtain ⟨shown, isShown, isStart⟩ := List.mem_filterMap.mp present
    obtain ⟨_, _, rfl⟩ := startTag?_eq_some.mp isStart
    have evaluatedDiffer := differ shown isShown
    rw [← names_evaluateEntries context] at evaluatedDiffer
    exact Markup.count_names_shownAttributes evaluatedDiffer repeated

/-- A style beside an attribute, below an element whose tag is no name. -/
theorem start_tags_repeat_styles_only_link :
    let link : Blueprint :=
      .element (some ['a']) none [("top".toList, ['0'])]
        [("href".toList, ['#'])] []
    let document : Blueprint := .element (some ['<']) none [] [] [link, link]
    ∃ node, document.render ⟨['x'], 0⟩ = some node ∧
      read document.toText = .ok (some document) ∧
      document.HasDistinctAttributes ∧
      (∀ shown ∈ document.outline, ¬shown.2.RepeatsStyle) ∧
      ∀ tag ∈ Markup.TagReader.startTags (node.toHtml [' '] []),
        tag.names.Nodup := by
  intro link document
  obtain ⟨node, rendered⟩ := @exists_render ⟨['x'], 0⟩ document rfl
  have isRead : read document.toText = .ok (some document) := by decide +kernel
  have distinct := hasDistinctAttributes_of_read isRead
  have noneRepeats : ∀ shown ∈ document.outline, ¬shown.2.RepeatsStyle := by
    have absent : ∀ shown ∈ document.outline,
        Markup.styleName ∉ Entries.names shown.2.attributes := by
      decide +kernel
    exact fun shown isShown repeatsStyle =>
      absent shown isShown repeatsStyle.2.2
  obtain ⟨_, differ, _⟩ := start_tags_repeat_styles_only distinct rendered
    (List.all_eq_true.mp rfl : ∀ char ∈ [' '], Text.isBlank char)
    (List.all_eq_true.mp rfl : ∀ char ∈ [], Text.isBlank char)
  exact ⟨node, rendered, isRead, distinct, noneRepeats, differ.mpr noneRepeats⟩

/-- A document with a style and an attribute of that name is written with the
style twice. -/
theorem start_tag_repeats_style :
    let document : Blueprint :=
      .element (some "a") none [("color", "red")] [("style", "x")] []
    let html := (document.render ⟨['x'], 0⟩).map fun node =>
      node.toHtml [' ', ' '] []
    read document.toText = .ok (some document) ∧
      html = some "<a style=\"color: red\" style=\"x\" />".toList ∧
      html.map Markup.TagReader.startTags =
        some [⟨"a", [("style", "color: red"), ("style", "x")]⟩] ∧
      ¬∀ tags ∈ html.map Markup.TagReader.startTags, ∀ tag ∈ tags,
        tag.names.Nodup := by
  decide +kernel

end

end Blueprint
end CellPreview
