import CellPreview.Markup.Html
import CellPreview.Proofs.Rendering.Outline
import Mathlib.Data.Set.Function

/-!
# How markup mirrors a blueprint

The content of an element comes before its children, and the children without a
tag are left out. So each element of a blueprint that is shown has a place of
its own in the markup. These are the places of all elements there, and document
order and parents are kept.
-/

namespace CellPreview
namespace Blueprint

/-- Index of the node of a child: the content comes first, and the children
without a tag are left out. -/
def renderedIndex
    (context : Formula.Context)
    (blueprint : Blueprint)
    (index : Nat) : Nat :=
  (contentNodes context blueprint.content).length +
    (blueprint.children.take index).countP fun child => child.tag.isSome

/-- Place in the markup of the element that is shown at a place. -/
def renderedPlace (context : Formula.Context) : Blueprint -> Place -> Place
  | _, [] => []
  | blueprint, index :: place =>
      match blueprint.children[index]? with
      | none => []
      | some child =>
          blueprint.renderedIndex context index ::
            child.renderedPlace context place

section

variable {context : Formula.Context}

theorem eq_text_of_mem_contentNodes
    {blueprint : Blueprint}
    {node : Markup.Node}
    (isContent : node ∈ contentNodes context blueprint.content) :
    node = .text (blueprint.contentText context) := by
  rw [contentNodes_eq, textNodes] at isContent
  split at isContent
  next => cases isContent
  next => exact List.mem_singleton.mp isContent

/-! ## The children of an element and their nodes -/

theorem countP_take_succ
    {children : List Blueprint}
    {index : Nat}
    {child : Blueprint}
    (isChild : children[index]? = some child)
    (tagged : child.tag.isSome) :
    (children.take (index + 1)).countP (fun child => child.tag.isSome) =
      (children.take index).countP (fun child => child.tag.isSome) + 1 := by
  rw [List.take_add_one, isChild, List.countP_append]
  simp [tagged]

/-- Children with a tag keep their order. -/
theorem renderedIndex_lt
    {blueprint child : Blueprint}
    {first second : Nat}
    (isChild : blueprint.children[first]? = some child)
    (tagged : child.tag.isSome)
    (before : first < second) :
    blueprint.renderedIndex context first <
      blueprint.renderedIndex context second := by
  have upToSecond :
      (blueprint.children.take (first + 1)).countP
          (fun child => child.tag.isSome) ≤
        (blueprint.children.take second).countP
          (fun child => child.tag.isSome) :=
    ((List.take_prefix_take_left before).sublist).countP_le
  rw [countP_take_succ isChild tagged] at upToSecond
  unfold renderedIndex
  omega

/-- The node of a child among those of all children. -/
theorem getElem?_renderAll
    {children : List Blueprint}
    {index : Nat}
    {child : Blueprint}
    (isChild : children[index]? = some child)
    (tagged : child.tag.isSome) :
    (renderAll context children)[
        (children.take index).countP fun child => child.tag.isSome]? =
      child.render context := by
  induction children generalizing index with
  | nil => cases isChild
  | cons first others inductionHypothesis =>
      rw [renderAll]
      cases index with
      | zero =>
          cases isChild
          obtain ⟨node, rendered⟩ := exists_render context tagged
          simp [rendered]
      | succ index =>
          have found := inductionHypothesis isChild
          cases shown : first.tag.isSome with
          | true =>
              obtain ⟨node, rendered⟩ := exists_render context shown
              simpa [rendered, shown] using found
          | false =>
              have missing : first.render context = none :=
                render_eq_none.mpr (by simpa using shown)
              simpa [missing, shown] using found

/-- Each node among those of all children is the node of one of them. -/
theorem exists_child_of_getElem?_renderAll
    {children : List Blueprint}
    {position : Nat}
    {node : Markup.Node}
    (found : (renderAll context children)[position]? = some node) :
    ∃ index child, children[index]? = some child ∧
      child.render context = some node ∧
      (children.take index).countP (fun child => child.tag.isSome) =
        position := by
  induction children generalizing position with
  | nil => simp [renderAll] at found
  | cons first others inductionHypothesis =>
      rw [renderAll] at found
      cases rendered : first.render context with
      | none =>
          have untagged := render_eq_none.mp rendered
          rw [rendered, Option.toList_none, List.nil_append] at found
          obtain ⟨index, child, isChild, isNode, counted⟩ :=
            inductionHypothesis found
          exact ⟨index + 1, child, isChild, isNode, by
            simpa [untagged] using counted⟩
      | some firstNode =>
          obtain ⟨tag, isTag, _⟩ := render_eq_some.mp rendered
          rw [rendered, Option.toList_some, List.singleton_append] at found
          cases position with
          | zero =>
              cases found
              exact ⟨0, first, rfl, rendered, rfl⟩
          | succ position =>
              obtain ⟨index, child, isChild, isNode, counted⟩ :=
                inductionHypothesis found
              exact ⟨index + 1, child, isChild, isNode, by
                simpa [isTag] using counted⟩

/-- The children of a rendered element: its content, and then the nodes of its
children. -/
theorem children_of_render
    {blueprint : Blueprint}
    {node : Markup.Node}
    (rendered : blueprint.render context = some node) :
    node.children =
      contentNodes context blueprint.content ++
        renderAll context blueprint.children := by
  obtain ⟨tag, _, rfl⟩ := render_eq_some.mp rendered
  rw [Markup.Node.children, contentNodes_eq]

theorem getElem?_children_of_render
    {blueprint child : Blueprint}
    {node : Markup.Node}
    {index : Nat}
    (rendered : blueprint.render context = some node)
    (isChild : blueprint.children[index]? = some child)
    (tagged : child.tag.isSome) :
    node.children[blueprint.renderedIndex context index]? =
      child.render context := by
  rw [children_of_render rendered, renderedIndex,
    List.getElem?_append_right (Nat.le_add_right _ _), Nat.add_sub_cancel_left,
    getElem?_renderAll isChild tagged]

/-- The content is a text, so an element below a rendered element is that of a
child. -/
theorem exists_child_of_isElementAt
    {blueprint : Blueprint}
    {node below : Markup.Node}
    {position : Nat}
    {place : Place}
    (rendered : blueprint.render context = some node)
    (found : node.children[position]? = some below)
    (isElement : below.IsElementAt place) :
    ∃ index child, blueprint.children[index]? = some child ∧
      child.render context = some below ∧
      blueprint.renderedIndex context index = position := by
  rw [children_of_render rendered, List.getElem?_append] at found
  split at found
  next =>
    have isText := eq_text_of_mem_contentNodes (List.mem_of_getElem? found)
    rw [isText] at isElement
    exact absurd isElement (Markup.Node.not_isElementAt_text _ _)
  next =>
    obtain ⟨index, child, isChild, isNode, counted⟩ :=
      exists_child_of_getElem?_renderAll found
    exact ⟨index, child, isChild, isNode, by
      unfold renderedIndex
      omega⟩

/-! ## Places of the elements that are shown -/

@[simp] theorem renderedPlace_nil (blueprint : Blueprint) :
    blueprint.renderedPlace context [] = [] := by
  rw [renderedPlace]

theorem renderedPlace_cons
    {blueprint child : Blueprint}
    {index : Nat}
    (isChild : blueprint.children[index]? = some child)
    (place : Place) :
    blueprint.renderedPlace context (index :: place) =
      blueprint.renderedIndex context index ::
        child.renderedPlace context place := by
  rw [renderedPlace, isChild]

/-- What is shown at a place is rendered at its place in the markup. -/
theorem at?_renderedPlace
    {blueprint : Blueprint}
    {node : Markup.Node}
    {place : Place}
    (rendered : blueprint.render context = some node)
    (isShown : blueprint.IsShown place) :
    node.at? (blueprint.renderedPlace context place) =
      (blueprint.at? place).bind (render context) := by
  induction place generalizing blueprint node with
  | nil => simp [rendered]
  | cons index place inductionHypothesis =>
      obtain ⟨_, child, isChild, childShown⟩ := isShown_cons.mp isShown
      have tagged := childShown.tag_isSome
      obtain ⟨below, isNode⟩ := exists_render context tagged
      rw [renderedPlace_cons isChild, Markup.Node.at?_cons,
        getElem?_children_of_render rendered isChild tagged, isNode,
        at?_cons, isChild]
      exact inductionHypothesis isNode childShown

/-- Every element of the markup is at the place of one that is shown. -/
theorem exists_renderedPlace
    {blueprint : Blueprint}
    {node : Markup.Node}
    {position : Place}
    (rendered : blueprint.render context = some node)
    (isElement : node.IsElementAt position) :
    ∃ place, blueprint.IsShown place ∧
      blueprint.renderedPlace context place = position := by
  have tagged : blueprint.tag.isSome := by
    obtain ⟨tag, isTag, _⟩ := render_eq_some.mp rendered
    rw [isTag, Option.isSome_some]
  induction position generalizing blueprint node with
  | nil => exact ⟨[], isShown_nil.mpr tagged, renderedPlace_nil blueprint⟩
  | cons position rest inductionHypothesis =>
      -- nothing is below a text, so each step down goes to the node of a child
      obtain ⟨below, found, isBelow⟩ :=
        Markup.Node.isElementAt_cons.mp isElement
      obtain ⟨index, child, isChild, isNode, rfl⟩ :=
        exists_child_of_isElementAt rendered found isBelow
      obtain ⟨tag, isTag, _⟩ := render_eq_some.mp isNode
      obtain ⟨place, isShown, rfl⟩ :=
        inductionHypothesis isNode isBelow (by simp [isTag])
      exact ⟨index :: place, isShown_cons.mpr ⟨tagged, child, isChild, isShown⟩,
        renderedPlace_cons isChild place⟩

/-- Rendering keeps document order. -/
theorem precedes_renderedPlace
    {blueprint : Blueprint}
    {first second : Place}
    (firstShown : blueprint.IsShown first)
    (secondShown : blueprint.IsShown second)
    (before : Place.Precedes first second) :
    Place.Precedes (blueprint.renderedPlace context first)
      (blueprint.renderedPlace context second) := by
  induction before generalizing blueprint with
  | nil =>
      obtain ⟨_, child, isChild, _⟩ := isShown_cons.mp secondShown
      rw [renderedPlace_nil, renderedPlace_cons isChild]
      exact .nil
  | cons _ inductionHypothesis =>
      obtain ⟨_, child, isChild, firstShown⟩ := isShown_cons.mp firstShown
      obtain ⟨_, same, isSame, secondShown⟩ := isShown_cons.mp secondShown
      obtain rfl : child = same :=
        Option.some.inj (isChild.symm.trans isSame)
      rw [renderedPlace_cons isChild, renderedPlace_cons isChild]
      exact .cons (inductionHypothesis firstShown secondShown)
  -- the places part here, and the children that are rendered keep their order
  | rel isLess =>
      obtain ⟨_, child, isChild, firstShown⟩ := isShown_cons.mp firstShown
      obtain ⟨_, other, isOther, _⟩ := isShown_cons.mp secondShown
      rw [renderedPlace_cons isChild, renderedPlace_cons isOther]
      exact .rel (renderedIndex_lt isChild firstShown.tag_isSome isLess)

/-- The place of a child is right below the place of its parent. -/
theorem exists_renderedPlace_append
    {blueprint : Blueprint}
    {place : Place}
    {index : Nat}
    (isShown : blueprint.IsShown (place ++ [index])) :
    ∃ position, blueprint.renderedPlace context (place ++ [index]) =
      blueprint.renderedPlace context place ++ [position] := by
  induction place generalizing blueprint with
  | nil =>
      obtain ⟨_, child, isChild, _⟩ := isShown_cons.mp isShown
      exact ⟨_, by rw [List.nil_append, renderedPlace_cons isChild,
        renderedPlace_nil, renderedPlace_nil, List.nil_append]⟩
  | cons first place inductionHypothesis =>
      obtain ⟨_, child, isChild, childShown⟩ := isShown_cons.mp isShown
      obtain ⟨position, below⟩ := inductionHypothesis childShown
      exact ⟨position, by
        rw [List.cons_append, renderedPlace_cons isChild,
          renderedPlace_cons isChild, below, List.cons_append]⟩

theorem precedes_renderedPlace_iff
    (context : Formula.Context)
    {blueprint : Blueprint}
    {first second : Place}
    (firstShown : blueprint.IsShown first)
    (secondShown : blueprint.IsShown second) :
    Place.Precedes (blueprint.renderedPlace context first)
        (blueprint.renderedPlace context second) ↔
      Place.Precedes first second := by
  refine ⟨fun before => ?_, precedes_renderedPlace firstShown secondShown⟩
  obtain isBefore | rfl | isAfter :=
    trichotomous_of Place.Precedes first second
  · exact isBefore
  · exact absurd before (irrefl_of Place.Precedes _)
  · exact absurd before (asymm_of Place.Precedes
      (precedes_renderedPlace secondShown firstShown isAfter))

/-- Different elements that are shown have different places in the markup. -/
theorem renderedPlace_injOn (context : Formula.Context) (blueprint : Blueprint) :
    Set.InjOn (blueprint.renderedPlace context)
      {shown | blueprint.IsShown shown} := by
  -- of places that differ one comes first, and so does its image
  have notBefore {first second : Place} (firstShown : blueprint.IsShown first)
      (secondShown : blueprint.IsShown second)
      (same : blueprint.renderedPlace context first =
        blueprint.renderedPlace context second) :
      ¬Place.Precedes first second := by
    rw [← precedes_renderedPlace_iff context firstShown secondShown, same]
    exact irrefl_of Place.Precedes _
  intro first firstShown second secondShown same
  exact Std.Trichotomous.trichotomous first second
    (notBefore firstShown secondShown same)
    (notBefore secondShown firstShown same.symm)

theorem filterMap_asText?_contentNodes
    (context : Formula.Context)
    (blueprint : Blueprint) :
    (contentNodes context blueprint.content).filterMap Markup.Node.asText? =
      if (blueprint.contentText context).isEmpty then []
      else [blueprint.contentText context] := by
  rw [contentNodes_eq, textNodes]
  split <;> rfl

/-- Only elements are rendered for children. -/
theorem filterMap_asText?_renderAll
    (context : Formula.Context)
    (children : List Blueprint) :
    (renderAll context children).filterMap Markup.Node.asText? = [] := by
  induction children with
  | nil => rfl
  | cons child others inductionHypothesis =>
      rw [renderAll, List.filterMap_append, inductionHypothesis]
      cases rendered : child.render context with
      | none => rfl
      | some node =>
          obtain ⟨tag, _, rfl⟩ := render_eq_some.mp rendered
          rfl

/-- An element that is shown is rendered with its own tag, style, attributes and
content. -/
theorem exists_element_at?_renderedPlace
    {blueprint original : Blueprint}
    {node : Markup.Node}
    {place : Place}
    (rendered : blueprint.render context = some node)
    (isShown : blueprint.IsShown place)
    (found : blueprint.at? place = some original) :
    ∃ tag children, original.tag = some tag ∧
      node.at? (blueprint.renderedPlace context place) =
        some (.element tag (Style.resolve context original.style)
          (evaluateEntries context original.attributes) children) ∧
      children.filterMap Markup.Node.asText? =
        if (original.contentText context).isEmpty then []
        else [original.contentText context] := by
  obtain ⟨same, isSame, tagged⟩ := isShown.exists_at?
  obtain rfl : same = original := Option.some.inj (isSame.symm.trans found)
  obtain ⟨below, isNode⟩ := exists_render context tagged
  obtain ⟨tag, isTag, rfl⟩ := render_eq_some.mp isNode
  have isAt := at?_renderedPlace rendered isShown
  rw [found, Option.bind_some, isNode] at isAt
  refine ⟨tag, _, isTag, isAt, ?_⟩
  rw [← contentNodes_eq, List.filterMap_append,
    filterMap_asText?_contentNodes, filterMap_asText?_renderAll,
    List.append_nil]

end

/-! ## What is shown and what is rendered -/

/-- The elements of a markup tree are in correspondence with the elements of a
blueprint that are shown. -/
structure Mirrors
    (context : Formula.Context)
    (blueprint : Blueprint)
    (node : Markup.Node)
    (place : Place -> Place) : Prop where
  /-- Places where an element is shown have different places in the markup, all
  of them those of elements, and no element of the markup is left over. -/
  bijective :
    Set.BijOn place {shown | blueprint.IsShown shown}
      {element | node.IsElementAt element}
  /-- Document order is kept. -/
  ordered : ∀ first second, blueprint.IsShown first -> blueprint.IsShown second ->
    (Place.Precedes (place first) (place second) ↔
      Place.Precedes first second)
  root : place [] = []
  /-- What is right below an element stays right below it. -/
  parent : ∀ above index, blueprint.IsShown (above ++ [index]) ->
    ∃ position, place (above ++ [index]) = place above ++ [position]
  /-- An element of the markup has the tag, the style and the attributes of the
  element that is shown, and its content as the only text, unless it is
  empty. -/
  element : ∀ shown original, blueprint.IsShown shown ->
    blueprint.at? shown = some original ->
    ∃ tag children, original.tag = some tag ∧
      node.at? (place shown) =
        some (.element tag (Style.resolve context original.style)
          (evaluateEntries context original.attributes) children) ∧
      children.filterMap Markup.Node.asText? =
        if (original.contentText context).isEmpty then []
        else [original.contentText context]

/-- The markup of a blueprint mirrors what is shown of it. -/
theorem mirrors_of_render
    {context : Formula.Context}
    {blueprint : Blueprint}
    {node : Markup.Node}
    (rendered : blueprint.render context = some node) :
    Mirrors context blueprint node (blueprint.renderedPlace context) where
  bijective := by
    refine ⟨fun shown isShown => ?_, blueprint.renderedPlace_injOn context,
      fun element isElement => exists_renderedPlace rendered isElement⟩
    obtain ⟨original, found, _⟩ := isShown.exists_at?
    obtain ⟨tag, children, _, isElement, _⟩ :=
      exists_element_at?_renderedPlace rendered isShown found
    exact ⟨tag, _, _, children, isElement⟩
  ordered _ _ := precedes_renderedPlace_iff context
  root := renderedPlace_nil blueprint
  parent _ _ := exists_renderedPlace_append
  element _ _ := exists_element_at?_renderedPlace rendered

/-- Rendering cuts the elements without a tag out of a blueprint and shows the
others. There is markup if and only if the root has a tag, it is the same when
the elements without a tag are taken out together with all that is below them,
its elements mirror those that are shown, and its text is the contents of these,
in document order. -/
theorem markup_shows_tagged_elements
    (context : Formula.Context)
    (blueprint : Blueprint) :
    (blueprint.render context = none ↔ blueprint.tag = none) ∧
      blueprint.pruned.render context = blueprint.render context ∧
      (∀ place shown, (place, shown) ∈ blueprint.outline ↔
        blueprint.IsShown place ∧ blueprint.at? place = some shown) ∧
      (blueprint.outline.Pairwise fun first second =>
        Place.Precedes first.1 second.1) ∧
      ∀ node, blueprint.render context = some node ->
        Mirrors context blueprint node (blueprint.renderedPlace context) ∧
          node.textContent =
            blueprint.outline.flatMap fun shown =>
              shown.2.contentText context :=
  ⟨render_eq_none, render_pruned blueprint, fun _ _ => mem_outline,
    pairwise_outline blueprint, fun _ rendered =>
      ⟨mirrors_of_render rendered, textContent_of_render blueprint rendered⟩⟩

/-- A blueprint in which one child has no tag and another an empty content. -/
theorem markup_shows_tagged_elements_list :
    let hidden : Blueprint := .element none (some ['x']) [] []
      [.element (some ['u']) (some ['y']) [] [] []]
    let item : Blueprint := .element (some ['l', 'i'])
      (some "=@currentField") [] [] []
    let blueprint : Blueprint := .element (some ['u', 'l']) (some []) [] []
      [hidden, .element (some ['l', 'i']) (some ['a']) [] [] [hidden], item]
    let node : Markup.Node := .element ['u', 'l'] [] []
      [.element ['l', 'i'] [] [] [.text ['a']],
        .element ['l', 'i'] [] [] [.text ['b']]]
    blueprint.render ⟨['b'], 0⟩ = some node ∧
      Mirrors ⟨['b'], 0⟩ blueprint node (blueprint.renderedPlace ⟨['b'], 0⟩) ∧
      node.textContent = ['a', 'b'] := by
  intro hidden item blueprint node
  have empty : (Formula.evaluate ⟨['b'], 0⟩ []).value = [] := by
    decide +kernel
  have template : (Formula.evaluate ⟨['b'], 0⟩ ['a']).value = ['a'] := by
    decide +kernel
  have formula :
      (Formula.evaluate ⟨['b'], 0⟩ "=@currentField").value = ['b'] := by
    decide +kernel
  have rendered : blueprint.render ⟨['b'], 0⟩ = some node := by
    simp only [blueprint, node, hidden, item, render, renderAll, contentNodes,
      textNodes, empty, template, formula]
    rfl
  obtain ⟨_, _, _, _, shows⟩ :=
    markup_shows_tagged_elements ⟨['b'], 0⟩ blueprint
  obtain ⟨mirrors, text⟩ := shows node rendered
  exact ⟨rendered, mirrors, text.trans (by decide +kernel)⟩

end Blueprint
end CellPreview
