import CellPreview.Proofs.Blueprint.ReadBack
import CellPreview.Proofs.Markup.ReadBack
import CellPreview.Proofs.Rendering.Outline
import CellPreview.Proofs.Style.Casing

/-!
# Styles on their way to the markup

A property is renamed when a style is resolved and named back when it is written.
Names without capital letters come out as they went in, so nothing of a style is
lost on the way. Names that become the same are merged: the first of them gives
the place and the last the value.
-/

namespace CellPreview
namespace Style

/-- The declarations of a style with the names and in the order of a document,
and with the values in a context. -/
def declarations (context : Formula.Context) (style : Entries Text) : Text :=
  Text.joined "; " <| style.map fun (name, text) =>
    name ++ ": " ++ (Formula.evaluate context text).value

section

variable {context : Formula.Context}
variable {style : Entries Text}

/-! ## Resolving -/

theorem names_map_camelCase (context : Formula.Context) (style : Entries Text) :
    Entries.names (style.map fun (name, text) =>
        (camelCase name, (Formula.evaluate context text).value)) =
      (Entries.names style).map camelCase := by
  rw [Entries.names, Entries.names, List.map_map, List.map_map]
  rfl

/-- Each name of a resolved style stands where it comes first. -/
theorem names_resolve (context : Formula.Context) (style : Entries Text) :
    Entries.names (resolve context style) =
      ((Entries.names style).map camelCase).eraseDups := by
  rw [resolve, Entries.names_ofPairs, names_map_camelCase]

/-- A property of a resolved style has the value that it comes with last. -/
theorem find?_resolve
    {before after : Entries Text}
    {name text : Text}
    (isLast : camelCase name ∉ (Entries.names after).map camelCase) :
    Entries.find? (camelCase name)
        (resolve context (before ++ (name, text) :: after)) =
      some (Formula.evaluate context text).value := by
  rw [← names_map_camelCase context] at isLast
  rw [resolve, List.map_append, List.map_cons]
  exact Entries.find?_ofPairs isLast

/-- Different names without capital letters stay different. -/
theorem nodup_map_camelCase
    {names : List Text}
    (distinct : names.Nodup)
    (hyphenated : ∀ name ∈ names, name ∈ hyphenatedNames) :
    (names.map camelCase).Nodup := by
  apply List.Nodup.map_on _ distinct
  intro first isFirst second isSecond same
  rw [← kebabCase_camelCase (hyphenated first isFirst), same,
    kebabCase_camelCase (hyphenated second isSecond)]

/-- A style whose names have no capital letters is resolved property by
property. -/
theorem resolve_of_hyphenated
    (distinct : (Entries.names style).Nodup)
    (hyphenated : ∀ name ∈ Entries.names style, name ∈ hyphenatedNames) :
    resolve context style = style.map fun (name, text) =>
      (camelCase name, (Formula.evaluate context text).value) := by
  apply Entries.ofPairs_of_nodup
  rw [names_map_camelCase]
  exact nodup_map_camelCase distinct hyphenated

/-- A style whose names have no capital letters is written with these names. -/
theorem styleText_resolve
    (distinct : (Entries.names style).Nodup)
    (hyphenated : ∀ name ∈ Entries.names style, name ∈ hyphenatedNames) :
    Markup.styleText (resolve context style) = declarations context style := by
  rw [resolve_of_hyphenated distinct hyphenated, Markup.styleText, declarations,
    List.map_map]
  congr 1
  apply List.map_congr_left
  intro (name, text) present
  have isHyphenated := hyphenated name (List.mem_map_of_mem present)
  dsimp only [Function.comp_apply]
  rw [kebabCase_camelCase isHyphenated]

end

end Style

namespace Blueprint

variable {context : Formula.Context}
variable {blueprint : Blueprint}
variable {tag : Text}

/-! ## Writing -/

/-- An element with a style is read back with the style as its first
attribute. -/
theorem read?_toHtml_of_render
    {node : Markup.Node}
    (isTag : blueprint.tag = some tag)
    (isTagName : Markup.isTagName tag)
    (styled : Style.resolve context blueprint.style ≠ [])
    (rendered : blueprint.render context = some node) :
    ∃ attributes children,
      Markup.TagReader.read? (node.toHtml [] []) =
        some [.element tag
          (("style".toList,
            Markup.styleText (Style.resolve context blueprint.style)) ::
              attributes)
          children] := by
  have isRead := (node.isClean_sanitised).read?_htmlAll
  rw [← node.toHtml_eq_htmlAll] at isRead
  obtain ⟨_, sameTag, rfl⟩ := render_eq_some.mp rendered
  obtain rfl := Option.some.inj (isTag.symm.trans sameTag)
  rw [Markup.Node.sanitised, Markup.Node.spliced, if_pos isTagName,
    Markup.shownAttributes, if_neg (styled ∘ List.isEmpty_iff.mp)] at isRead
  exact ⟨_, _, isRead⟩

/-! ## Styles in documents -/

theorem nodup_names_scalarEntries
    {levels : Nat}
    {found : Option Json.Value}
    (readable : ∀ value ∈ found, value.isReadable levels) :
    (Entries.names (scalarEntries found)).Nodup := by
  unfold scalarEntries
  split
  next fields =>
    have isReadable := readable _ rfl
    cases levels with
    | zero => cases isReadable
    | succ levels =>
        rw [Json.Value.isReadable_object] at isReadable
        exact (names_scalars_sublist fields).nodup isReadable.1
  next => exact .nil

/-- The names of a style that was read differ. -/
theorem nodup_names_style
    {levels : Nat}
    {value : Json.Value}
    (readable : value.isReadable levels) :
    (Entries.names (ofValue value).style).Nodup := by
  cases value with
  | object fields =>
      cases levels with
      | zero => cases readable
      | succ levels =>
          rw [ofValue, style]
          exact nodup_names_scalarEntries (isReadable_of_find? readable styleKey)
  | _ =>
      rw [ofValue]
      · exact .nil
      · rintro fields ⟨⟩

/-- Blueprints in a list come from values that can be read. -/
theorem exists_value_of_mem_itemsOf
    {levels : Nat}
    {value : Json.Value}
    {child : Blueprint}
    (readable : value.isReadable levels)
    (isItem : child ∈ itemsOf value) :
    ∃ (item : Json.Value) (fewer : Nat),
      item.isReadable fewer ∧ ofValue item = child := by
  cases value with
  | list items =>
      rw [itemsOf, ofValues_eq_map] at isItem
      obtain ⟨item, present, rfl⟩ := List.mem_map.mp isItem
      cases levels with
      | zero => cases readable
      | succ levels =>
          rw [Json.Value.isReadable_list] at readable
          exact ⟨item, levels, readable item present, rfl⟩
  | _ => cases isItem

/-- The children of an element come from values that can be read. -/
theorem exists_value_of_mem_children
    {levels : Nat}
    {value : Json.Value}
    {child : Blueprint}
    (readable : value.isReadable levels)
    (isChild : child ∈ (ofValue value).children) :
    ∃ (item : Json.Value) (fewer : Nat),
      item.isReadable fewer ∧ ofValue item = child := by
  cases value with
  | object fields =>
      cases levels with
      | zero => cases readable
      | succ levels =>
          rw [ofValue, children, childrenOf_eq] at isChild
          have foundReadable := isReadable_of_find? readable childrenKey
          cases found : Entries.find? childrenKey fields with
          | none =>
              rw [found] at isChild
              cases isChild
          | some list =>
              rw [found] at isChild foundReadable
              exact exists_value_of_mem_itemsOf (foundReadable list rfl) isChild
  | _ =>
      rw [ofValue] at isChild
      · cases isChild
      · rintro fields ⟨⟩

/-- Every element of a document comes from a value that can be read. -/
theorem exists_value_of_at?
    {levels : Nat}
    {value : Json.Value}
    {place : Place}
    {element : Blueprint}
    (readable : value.isReadable levels)
    (found : (ofValue value).at? place = some element) :
    ∃ (item : Json.Value) (fewer : Nat),
      item.isReadable fewer ∧ ofValue item = element := by
  induction place generalizing value levels with
  | nil =>
      rw [at?_nil] at found
      cases found
      exact ⟨value, levels, readable, rfl⟩
  | cons index place inductionHypothesis =>
      rw [at?_cons, Option.bind_eq_some_iff] at found
      obtain ⟨child, isChild, below⟩ := found
      obtain ⟨item, fewer, itemReadable, rfl⟩ :=
        exists_value_of_mem_children readable (List.mem_of_getElem? isChild)
      exact inductionHypothesis itemReadable below

/-- The names of the style of any element of a document differ. -/
theorem nodup_names_style_of_at?
    {levels : Nat}
    {value : Json.Value}
    {place : Place}
    {element : Blueprint}
    (readable : value.isReadable levels)
    (found : (ofValue value).at? place = some element) :
    (Entries.names element.style).Nodup := by
  obtain ⟨item, fewer, itemReadable, rfl⟩ := exists_value_of_at? readable found
  exact nodup_names_style itemReadable

/-- A style whose names have no capital letters reaches the markup as it is: the
style attribute of the element has the same names in the same order, each with
the value of its text. The names of a style in a document differ. In any style,
the names that become the same are merged to one, in the place of the first and
with the value of the last. -/
theorem style_reaches_markup (context : Formula.Context) :
    (∀ (blueprint : Blueprint) (tag : Text),
      blueprint.tag = some tag ->
      Markup.isTagName tag ->
      blueprint.style ≠ [] ->
      (Entries.names blueprint.style).Nodup ->
      (∀ name ∈ Entries.names blueprint.style,
        name ∈ Style.hyphenatedNames) ->
      ∃ node attributes children,
        blueprint.render context = some node ∧
          Markup.TagReader.read? (node.toHtml [] []) =
            some [.element tag
              (("style".toList,
                Style.declarations context blueprint.style) :: attributes)
              children]) ∧
    (∀ (text : Text) (document element : Blueprint) (place : Place),
      read text = .ok (some document) ->
      document.at? place = some element ->
      (Entries.names element.style).Nodup) ∧
    ∀ style : Entries Text,
      let resolved := Style.resolve context style
      (Entries.names resolved).Nodup ∧
        Entries.names resolved =
          ((Entries.names style).map Style.camelCase).eraseDups ∧
        ∀ before name text after,
          style = before ++ (name, text) :: after ->
          Style.camelCase name ∉ (Entries.names after).map Style.camelCase ->
          Entries.find? (Style.camelCase name) resolved =
            some (Formula.evaluate context text).value := by
  refine ⟨?_, ?_, fun style => ⟨?_, Style.names_resolve context style, ?_⟩⟩
  · intro blueprint tag isTag isTagName styled distinct hyphenated
    obtain ⟨node, rendered⟩ := exists_render context (by rw [isTag]; rfl)
    have resolved : Style.resolve context blueprint.style ≠ [] := by
      rw [Style.resolve_of_hyphenated distinct hyphenated]
      simpa using styled
    obtain ⟨attributes, children, isRead⟩ :=
      read?_toHtml_of_render isTag isTagName resolved rendered
    rw [Style.styleText_resolve distinct hyphenated] at isRead
    exact ⟨node, attributes, children, rendered, isRead⟩
  · intro text document element place isRead found
    obtain ⟨value, valueRead, rfl⟩ := exists_value_of_read isRead
    exact nodup_names_style_of_at? (Json.isReadable_of_read valueRead) found
  · exact Entries.nodup_names_ofPairs _
  · rintro before name text after rfl isLast
    exact Style.find?_resolve isLast

/-- A custom property and a value with a quote in a document, and two names that
are merged. -/
theorem style_reaches_markup_custom_property :
    let context : Formula.Context := ⟨['7'], 0⟩
    let style : Entries Text :=
      [("--a-b", "=@currentField + 'px'"), ("c", "\"<")]
    let element : Blueprint := .element (some ['b']) none style [] []
    let merged : Entries Text := [("a-b", ['1']), ("c", ['2']), ("aB", ['3'])]
    (Markup.isTagName ['b'] ∧ element.style ≠ [] ∧
      (Entries.names element.style).Nodup ∧
      (∀ name ∈ Entries.names element.style, name ∈ Style.hyphenatedNames) ∧
      ∃ node attributes children,
        element.render context = some node ∧
          Markup.TagReader.read? (node.toHtml [] []) =
            some [.element ['b']
              (("style".toList, "--a-b: 7px; c: \"<".toList) :: attributes)
              children]) ∧
    (read element.toText = .ok (some element) ∧
      element.at? [] = some element ∧
      (Entries.names element.style).Nodup) ∧
    Entries.names (Style.resolve context merged) = ["aB".toList, ['c']] ∧
      Entries.find? "aB".toList (Style.resolve context merged) =
        some ['3'] := by
  intro context style element merged
  obtain ⟨written, differ, resolved⟩ := style_reaches_markup context
  have isTagName : Markup.isTagName ['b'] := by decide +kernel
  have distinct : (Entries.names element.style).Nodup := by decide +kernel
  have noCapital : (Entries.names element.style).all
      (fun name => name.all fun char => !char.isUpper) = true := by
    decide +kernel
  have hyphenated :
      ∀ name ∈ Entries.names element.style, name ∈ Style.hyphenatedNames := by
    intro name isName char present
    have checked := List.all_eq_true.mp noCapital name isName
    simpa using List.all_eq_true.mp checked char present
  have declared :
      Style.declarations context style = "--a-b: 7px; c: \"<" := by
    decide +kernel
  have isRead : read element.toText = .ok (some element) := by decide +kernel
  have isMarkup := written element ['b'] rfl isTagName (List.cons_ne_nil _ _)
    distinct hyphenated
  obtain ⟨_, _, lastValue⟩ := resolved merged
  have value := lastValue [("a-b", ['1']), ("c", ['2'])] "aB" ['3'] [] rfl
    (List.not_mem_nil)
  rw [show element.style = style from rfl, declared] at isMarkup
  exact ⟨⟨isTagName, List.cons_ne_nil _ _, distinct, hyphenated, isMarkup⟩,
    ⟨isRead, at?_nil element, differ _ _ _ [] isRead (at?_nil element)⟩,
    by decide +kernel, value⟩

end Blueprint
end CellPreview
