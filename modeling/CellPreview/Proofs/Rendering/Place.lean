import CellPreview.Rendering
import Mathlib.Data.List.Infix
import Mathlib.Data.List.Lex

/-!
# Places in a tree

A place in a blueprint or in a markup tree is the list of the indices of the
children on the way to it. In document order, a place comes before those below
it, and these come before the next child. The elements of a blueprint that are
shown are those with a tag all of whose ancestors have one.
-/

namespace CellPreview

/-- The indices of the children on the way from the root of a tree. -/
abbrev Place := List Nat

/-- Document order of places. -/
abbrev Place.Precedes : Place -> Place -> Prop :=
  List.Lex (· < ·)

namespace Blueprint

/-- The element at a place. -/
def at? : Blueprint -> Place -> Option Blueprint
  | blueprint, [] => some blueprint
  | blueprint, index :: place =>
      (blueprint.children[index]?).bind fun child => child.at? place

@[simp] theorem at?_nil (blueprint : Blueprint) :
    blueprint.at? [] = some blueprint := by
  rw [at?]

theorem at?_cons (blueprint : Blueprint) (index : Nat) (place : Place) :
    blueprint.at? (index :: place) =
      (blueprint.children[index]?).bind fun child => child.at? place := by
  rw [at?]

/-- There is an element with a tag at a place and at every place on the way to
it. -/
def IsShown (blueprint : Blueprint) (place : Place) : Prop :=
  ∀ before, before <+: place ->
    ∃ element, blueprint.at? before = some element ∧ element.tag.isSome

@[simp] theorem isShown_nil {blueprint : Blueprint} :
    blueprint.IsShown [] ↔ blueprint.tag.isSome := by
  simp [IsShown]

theorem isShown_cons
    {blueprint : Blueprint}
    {index : Nat}
    {place : Place} :
    blueprint.IsShown (index :: place) ↔
      blueprint.tag.isSome ∧
        ∃ child, blueprint.children[index]? = some child ∧
          child.IsShown place := by
  constructor
  · intro isShown
    refine ⟨by simpa using isShown [] (List.nil_prefix), ?_⟩
    obtain ⟨element, found, _⟩ := isShown [index] (by simp)
    rw [at?_cons, Option.bind_eq_some_iff] at found
    obtain ⟨child, isChild, _⟩ := found
    refine ⟨child, isChild, fun before isBefore => ?_⟩
    have below := isShown (index :: before) (by simpa using isBefore)
    rwa [at?_cons, isChild, Option.bind_some] at below
  · rintro ⟨tagged, child, isChild, isShown⟩ before isBefore
    obtain rfl | ⟨inner, rfl, isInner⟩ := List.prefix_cons_iff.mp isBefore
    · exact ⟨blueprint, at?_nil blueprint, tagged⟩
    · rw [at?_cons, isChild, Option.bind_some]
      exact isShown inner isInner

/-- Nothing is shown below an element without a tag. -/
theorem IsShown.tag_isSome
    {blueprint : Blueprint}
    {place : Place}
    (isShown : blueprint.IsShown place) :
    blueprint.tag.isSome := by
  cases place with
  | nil => exact isShown_nil.mp isShown
  | cons => exact (isShown_cons.mp isShown).1

/-- What is shown at a place is there, with a tag. -/
theorem IsShown.exists_at?
    {blueprint : Blueprint}
    {place : Place}
    (isShown : blueprint.IsShown place) :
    ∃ element, blueprint.at? place = some element ∧ element.tag.isSome :=
  isShown place List.prefix_rfl

end Blueprint

namespace Markup.Node

/-- The node at a place. -/
def at? : Node -> Place -> Option Node
  | node, [] => some node
  | node, index :: place =>
      (node.children[index]?).bind fun child => child.at? place

@[simp] theorem at?_nil (node : Node) : node.at? [] = some node := by
  rw [at?]

theorem at?_cons (node : Node) (index : Nat) (place : Place) :
    node.at? (index :: place) =
      (node.children[index]?).bind fun child => child.at? place := by
  rw [at?]

/-- The node at a place is an element. -/
def IsElementAt (node : Node) (place : Place) : Prop :=
  ∃ tag style attributes children,
    node.at? place = some (.element tag style attributes children)

theorem isElementAt_cons {node : Node} {index : Nat} {place : Place} :
    node.IsElementAt (index :: place) ↔
      ∃ child, node.children[index]? = some child ∧
        child.IsElementAt place := by
  simp only [IsElementAt, at?_cons, Option.bind_eq_some_iff]
  constructor
  · rintro ⟨tag, style, attributes, children, child, isChild, found⟩
    exact ⟨child, isChild, tag, style, attributes, children, found⟩
  · rintro ⟨child, isChild, tag, style, attributes, children, found⟩
    exact ⟨tag, style, attributes, children, child, isChild, found⟩

theorem not_isElementAt_text (content : Text) (place : Place) :
    ¬(text content).IsElementAt place := by
  rintro ⟨tag, style, attributes, inner, found⟩
  cases place <;> simp [at?_cons, children] at found

end Markup.Node
end CellPreview
