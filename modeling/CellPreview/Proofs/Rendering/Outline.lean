import CellPreview.Proofs.Markup.Walk
import CellPreview.Proofs.Rendering.Place

/-!
# What is shown of a blueprint

Rendering cuts out the elements without a tag together with everything below
them. The outline lists the elements that are left, in document order, and the
text of the markup is their contents one after the other.
-/

namespace CellPreview
namespace Blueprint

/-- The value of the content of an element, which is empty if it has none. -/
def contentText (context : Formula.Context) (blueprint : Blueprint) : Text :=
  match blueprint.content with
  | none => []
  | some text => (Formula.evaluate context text).value

mutual

/-- The blueprint without the elements below it that have no tag, each taken
out together with what is below it. -/
def pruned : Blueprint -> Blueprint
  | .element tag content style attributes children =>
      .element tag content style attributes (prunedAll children)

/-- Those among some blueprints that have a tag, all of them pruned. -/
def prunedAll : List Blueprint -> List Blueprint
  | [] => []
  | child :: others =>
      if child.tag.isSome then child.pruned :: prunedAll others
      else prunedAll others

end

mutual

/-- The elements that are shown, with their places, every one before those below
it. -/
def outline : Blueprint -> List (Place × Blueprint)
  | .element none _ _ _ _ => []
  | .element (some tag) content style attributes children =>
      ([], .element (some tag) content style attributes children) ::
        outlineFrom 0 children

/-- The elements that are shown in some blueprints, which are children from an
index on. -/
def outlineFrom : Nat -> List Blueprint -> List (Place × Blueprint)
  | _, [] => []
  | index, child :: others =>
      child.outline.map (fun shown => (index :: shown.1, shown.2)) ++
        outlineFrom (index + 1) others

end

section

variable {context : Formula.Context}

theorem contentNodes_eq (context : Formula.Context) (blueprint : Blueprint) :
    contentNodes context blueprint.content =
      textNodes (blueprint.contentText context) := by
  unfold contentText
  cases blueprint.content <;> rfl

theorem render_eq_none {blueprint : Blueprint} :
    blueprint.render context = none ↔ blueprint.tag = none := by
  cases blueprint with
  | element tag content style attributes children =>
      cases tag <;> simp [render, tag]

/-- What a blueprint with a tag renders to. -/
theorem render_eq_some {blueprint : Blueprint} {node : Markup.Node} :
    blueprint.render context = some node ↔
      ∃ tag, blueprint.tag = some tag ∧
        node = .element tag (Style.resolve context blueprint.style)
          (evaluateEntries context blueprint.attributes)
          (textNodes (blueprint.contentText context) ++
            renderAll context blueprint.children) := by
  rw [← contentNodes_eq]
  cases blueprint with
  | element tag content style attributes children =>
      cases tag <;>
        simp [render, tag, Blueprint.content, Blueprint.style,
          Blueprint.attributes, Blueprint.children, eq_comm]

theorem exists_render
    (context : Formula.Context)
    {blueprint : Blueprint}
    (tagged : blueprint.tag.isSome) :
    ∃ node, blueprint.render context = some node := by
  obtain ⟨tag, isTag⟩ := Option.isSome_iff_exists.mp tagged
  exact ⟨_, render_eq_some.mpr ⟨tag, isTag, rfl⟩⟩

/-! ## Cutting out what has no tag -/

mutual

/-- Rendering does not see what pruning takes out. -/
theorem render_pruned (blueprint : Blueprint) :
    blueprint.pruned.render context = blueprint.render context := by
  cases blueprint with
  | element tag content style attributes children =>
      cases tag with
      | none => rw [pruned, render, render]
      | some tag => rw [pruned, render, render, renderAll_prunedAll children]

theorem renderAll_prunedAll (blueprints : List Blueprint) :
    renderAll context (prunedAll blueprints) =
      renderAll context blueprints := by
  cases blueprints with
  | nil => rw [prunedAll]
  | cons child others =>
      rw [prunedAll, renderAll]
      -- a child without a tag adds no node, so it may as well be missing
      split
      next => rw [renderAll, render_pruned child, renderAll_prunedAll others]
      next untagged =>
        rw [render_eq_none.mpr (by simpa using untagged),
          renderAll_prunedAll others, Option.toList_none, List.nil_append]

end

end

/-! ## The elements that are shown, in document order -/

theorem outline_of_tag_eq_none
    {blueprint : Blueprint}
    (untagged : blueprint.tag = none) :
    blueprint.outline = [] := by
  obtain ⟨tag, content, style, attributes, children⟩ := blueprint
  cases untagged
  rw [outline]

theorem outline_of_tag_isSome
    {blueprint : Blueprint}
    (tagged : blueprint.tag.isSome) :
    blueprint.outline = ([], blueprint) :: outlineFrom 0 blueprint.children := by
  obtain ⟨_ | tag, content, style, attributes, children⟩ := blueprint
  · cases tagged
  · rw [outline, Blueprint.children]

theorem mem_outlineFrom
    {start : Nat}
    {children : List Blueprint}
    {place : Place}
    {shown : Blueprint} :
    (place, shown) ∈ outlineFrom start children ↔
      ∃ index child inner, children[index]? = some child ∧
        place = (start + index) :: inner ∧ (inner, shown) ∈ child.outline := by
  induction children generalizing start with
  | nil => simp [outlineFrom]
  | cons first others inductionHypothesis =>
      rw [outlineFrom, List.mem_append, inductionHypothesis, List.mem_map]
      constructor
      · rintro (⟨⟨inner, shown⟩, isShown, same⟩ |
          ⟨index, child, inner, isChild, rfl, isShown⟩)
        · cases same
          exact ⟨0, first, inner, rfl, rfl, isShown⟩
        · exact ⟨index + 1, child, inner, isChild, by congr 1; omega, isShown⟩
      · rintro ⟨_ | index, child, inner, isChild, rfl, isShown⟩
        · cases isChild
          exact .inl ⟨(inner, shown), isShown, rfl⟩
        · exact .inr ⟨index, child, inner, isChild, by congr 1; omega, isShown⟩

theorem mem_outline_nil {blueprint shown : Blueprint} :
    ([], shown) ∈ blueprint.outline ↔
      blueprint.tag.isSome ∧ blueprint = shown := by
  cases tagged : blueprint.tag with
  | none => simp [outline_of_tag_eq_none tagged]
  | some =>
      rw [outline_of_tag_isSome (by simp [tagged])]
      simp [mem_outlineFrom, eq_comm]

theorem mem_outline_cons
    {blueprint shown : Blueprint}
    {index : Nat}
    {place : Place} :
    (index :: place, shown) ∈ blueprint.outline ↔
      blueprint.tag.isSome ∧
        ∃ child, blueprint.children[index]? = some child ∧
          (place, shown) ∈ child.outline := by
  cases tagged : blueprint.tag with
  | none => simp [outline_of_tag_eq_none tagged]
  | some =>
      rw [outline_of_tag_isSome (by simp [tagged])]
      simp [mem_outlineFrom, and_assoc]

/-- The outline has exactly the elements that are shown. -/
theorem mem_outline
    {blueprint shown : Blueprint}
    {place : Place} :
    (place, shown) ∈ blueprint.outline ↔
      blueprint.IsShown place ∧ blueprint.at? place = some shown := by
  induction place generalizing blueprint with
  | nil => simp [mem_outline_nil]
  | cons index place inductionHypothesis =>
      simp only [mem_outline_cons, isShown_cons, at?_cons, inductionHypothesis,
        and_assoc]
      refine and_congr_right fun _ => ?_
      constructor
      · rintro ⟨child, isChild, isShown, found⟩
        exact ⟨⟨child, isChild, isShown⟩, by rwa [isChild]⟩
      · rintro ⟨⟨child, isChild, isShown⟩, found⟩
        rw [isChild] at found
        exact ⟨child, isChild, isShown, found⟩

mutual

/-- The outline is in document order. -/
theorem pairwise_outline (blueprint : Blueprint) :
    blueprint.outline.Pairwise fun first second =>
      Place.Precedes first.1 second.1 := by
  cases blueprint with
  | element tag content style attributes children =>
      cases tag with
      | none => rw [outline]; exact .nil
      | some tag =>
          rw [outline, List.pairwise_cons]
          refine ⟨?_, pairwise_outlineFrom 0 children⟩
          rintro ⟨place, shown⟩ isBelow
          obtain ⟨_, _, _, _, rfl, _⟩ := mem_outlineFrom.mp isBelow
          exact .nil

theorem pairwise_outlineFrom (start : Nat) (children : List Blueprint) :
    (outlineFrom start children).Pairwise fun first second =>
      Place.Precedes first.1 second.1 := by
  cases children with
  | nil => simp [outlineFrom]
  | cons child others =>
      rw [outlineFrom, List.pairwise_append, List.pairwise_map]
      -- places in one child agree in the first index, which grows from child to
      -- child
      refine ⟨(pairwise_outline child).imp .cons,
        pairwise_outlineFrom (start + 1) others, ?_⟩
      rintro _ isFirst ⟨place, shown⟩ isLater
      obtain ⟨first, _, rfl⟩ := List.mem_map.mp isFirst
      obtain ⟨index, _, _, _, rfl, _⟩ := mem_outlineFrom.mp isLater
      exact .rel (by omega)

end

/-! ## Texts -/

theorem flatMap_textContent_textNodes (content : Text) :
    (textNodes content).flatMap Markup.Node.textContent = content := by
  cases content <;> simp [textNodes]

mutual

/-- The text of the markup is the contents of the elements that are shown, one
after the other. -/
theorem textContent_of_render
    {context : Formula.Context}
    (blueprint : Blueprint)
    {node : Markup.Node}
    (rendered : blueprint.render context = some node) :
    node.textContent =
      blueprint.outline.flatMap fun shown => shown.2.contentText context := by
  cases blueprint with
  | element tag content style attributes children =>
      obtain ⟨tag, rfl, rfl⟩ := render_eq_some.mp rendered
      rw [Markup.Node.textContent_element, List.flatMap_append,
        flatMap_textContent_textNodes, Blueprint.children,
        flatMap_textContent_renderAll 0 children]
      simp only [outline, List.flatMap_cons]

theorem flatMap_textContent_renderAll
    {context : Formula.Context}
    (start : Nat)
    (children : List Blueprint) :
    (renderAll context children).flatMap Markup.Node.textContent =
      (outlineFrom start children).flatMap fun shown =>
        shown.2.contentText context := by
  cases children with
  | nil => simp [renderAll, outlineFrom]
  | cons child others =>
      rw [renderAll, outlineFrom, List.flatMap_append, List.flatMap_append,
        List.flatMap_map, flatMap_textContent_renderAll (start + 1) others]
      cases rendered : child.render context with
      | none =>
          simp [outline_of_tag_eq_none (render_eq_none.mp rendered)]
      | some node =>
          rw [← textContent_of_render child rendered]
          simp

end

end Blueprint
end CellPreview
