import CellPreview.Entries
import CellPreview.Json.Value

/-!
# Blueprints

A blueprint describes the markup of a cell: an element with a tag, a content, a
style and attributes, all of them templates or formulas, and the blueprints of
its children. It is made from any JSON value at all. What does not fit is left
out, and an element without a tag stays in the tree although nothing is shown
for it.
-/

namespace CellPreview

/-- Description of an element and of those below it. -/
inductive Blueprint
  | element
      (tag : Option Text)
      (content : Option Text)
      (style attributes : List (Text × Text))
      (children : List Blueprint)

namespace Blueprint

/-- Tag of the element, without which nothing is shown. -/
def tag : Blueprint -> Option Text
  | .element tag _ _ _ _ => tag

/-- Template or formula of the text in front of the children. -/
def content : Blueprint -> Option Text
  | .element _ content _ _ _ => content

/-- Templates or formulas of the style properties. -/
def style : Blueprint -> Entries Text
  | .element _ _ style _ _ => style

/-- Templates or formulas of the attributes. -/
def attributes : Blueprint -> Entries Text
  | .element _ _ _ attributes _ => attributes

/-- Blueprints of the children. -/
def children : Blueprint -> List Blueprint
  | .element _ _ _ _ children => children

/-- The blueprint of a value that describes no element. -/
def blank : Blueprint :=
  .element none none [] [] []

mutual

/-- Number of elements in the tree. -/
def size : Blueprint -> Nat
  | .element _ _ _ _ children => 1 + sizeAll children

/-- Number of elements in some trees. -/
def sizeAll : List Blueprint -> Nat
  | [] => 0
  | child :: others => child.size + sizeAll others

end

mutual

/-- Equality of blueprints can be decided. -/
def decideEq : (first second : Blueprint) -> Decidable (first = second)
  | .element tag content style attributes children,
    .element tag' content' style' attributes' children' =>
      if same : tag = tag' ∧ content = content' ∧ style = style' ∧
          attributes = attributes' then
        match decideEqAll children children' with
        | .isTrue equal => .isTrue (by simp [same, equal])
        | .isFalse differ => .isFalse (by simp [differ])
      else
        .isFalse (by
          intro equal
          injection equal with tags contents styles attributes
          exact same ⟨tags, contents, styles, attributes⟩)

/-- Equality of lists of blueprints can be decided. -/
def decideEqAll : (first second : List Blueprint) -> Decidable (first = second)
  | [], [] => .isTrue rfl
  | [], _ :: _ => .isFalse (by simp)
  | _ :: _, [] => .isFalse (by simp)
  | child :: others, child' :: others' =>
      match child.decideEq child', decideEqAll others others' with
      | .isTrue head, .isTrue tail => .isTrue (by simp [head, tail])
      | .isFalse differ, _ => .isFalse (by simp [differ])
      | _, .isFalse differ => .isFalse (by simp [differ])

end

instance : DecidableEq Blueprint := decideEq

end Blueprint
end CellPreview
