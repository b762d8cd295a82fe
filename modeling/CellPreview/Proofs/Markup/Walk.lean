import CellPreview.Markup.Node

/-!
# Walks and texts of a tree

A walk keeps the trees that it has yet to visit, and it visits them in
preorder. So the text of an element is the text of its children, one after the
other.
-/

namespace CellPreview
namespace Markup
namespace Node

@[simp] theorem preorderAll_nil : preorderAll [] = [] := by
  simp [preorderAll]

@[simp] theorem preorderAll_cons (node : Node) (others : List Node) :
    preorderAll (node :: others) = node.preorder ++ preorderAll others := by
  simp [preorderAll]

@[simp] theorem preorderAll_append (first second : List Node) :
    preorderAll (first ++ second) = preorderAll first ++ preorderAll second := by
  induction first with
  | nil => simp
  | cons node others inductionHypothesis => simp [inductionHypothesis]

theorem preorderAll_eq_flatMap (nodes : List Node) :
    preorderAll nodes = nodes.flatMap preorder := by
  induction nodes with
  | nil => simp
  | cons node others inductionHypothesis => simp [inductionHypothesis]

theorem preorder_eq (node : Node) :
    node.preorder = node :: preorderAll node.children := by
  cases node <;> simp [preorder, children]

end Node

/-- A walk visits what it has pending in preorder. -/
theorem Walk.visited_eq_preorderAll (walk : Walk) :
    walk.visited = Node.preorderAll walk.pending := by
  fun_induction Walk.visited walk with
  | case1 => simp
  | case2 node pending inductionHypothesis =>
      rw [inductionHypothesis, Node.preorderAll_append, Node.preorderAll_cons,
        Node.preorder_eq, List.cons_append]

namespace Node

theorem walk_eq_preorder (node : Node) : node.walk = node.preorder := by
  rw [walk, Walk.visited_eq_preorderAll]
  simp [Walk.start]

@[simp] theorem textContent_text (content : Text) :
    (Node.text content).textContent = content := by
  simp [textContent, walk_eq_preorder, preorder_eq, children, ownText]

@[simp] theorem textContent_element
    (tag : Text)
    (style attributes : List (Text × Text))
    (children : List Node) :
    (Node.element tag style attributes children).textContent =
      children.flatMap textContent := by
  have texts : textContent = fun child : Node =>
      child.preorder.flatMap ownText := by
    funext child
    rw [textContent, walk_eq_preorder]
  rw [textContent, walk_eq_preorder, preorder_eq, List.flatMap_cons, ownText,
    List.nil_append, Node.children, preorderAll_eq_flatMap, List.flatMap_assoc,
    texts]

end Node
end Markup
end CellPreview
