import CellPreview.Entries
import CellPreview.Json.Value

/-!
# Markup trees

What a blueprint renders to: texts, and elements with concrete styles and
attributes. The texts of a tree are read off in document order, which is the
order in which a walk from the root meets the nodes, every node before its
children.
-/

namespace CellPreview
namespace Markup

/-- A text or an element. -/
inductive Node
  | text (content : Text)
  | element
      (tag : Text)
      (style attributes : List (Text × Text))
      (children : List Node)

namespace Node

instance : Inhabited Node := ⟨.text []⟩

mutual

/-- Number of nodes in the tree. -/
def size : Node -> Nat
  | .text _ => 1
  | .element _ _ _ children => 1 + sizeAll children

/-- Number of nodes in some trees. -/
def sizeAll : List Node -> Nat
  | [] => 0
  | child :: others => child.size + sizeAll others

end

@[simp] theorem sizeAll_nil : sizeAll [] = 0 := by
  simp [sizeAll]

@[simp] theorem sizeAll_cons (child : Node) (others : List Node) :
    sizeAll (child :: others) = child.size + sizeAll others := by
  simp [sizeAll]

@[simp] theorem sizeAll_append (first second : List Node) :
    sizeAll (first ++ second) = sizeAll first + sizeAll second := by
  induction first with
  | nil => simp
  | cons child others inductionHypothesis =>
      simp [inductionHypothesis, Nat.add_assoc]

/-- Nodes right below a node. -/
def children : Node -> List Node
  | .text _ => []
  | .element _ _ _ children => children

theorem size_eq (node : Node) : node.size = 1 + sizeAll node.children := by
  cases node <;> simp [size, children]

mutual

/-- The nodes of the tree, every one before those below it. -/
def preorder : Node -> List Node
  | .text content => [.text content]
  | .element tag style attributes children =>
      .element tag style attributes children :: preorderAll children

/-- The nodes of some trees, one tree after the other. -/
def preorderAll : List Node -> List Node
  | [] => []
  | child :: others => child.preorder ++ preorderAll others

end

/-- Content of a text; nothing for an element. -/
def ownText : Node -> Text
  | .text content => content
  | .element .. => []

mutual

/-- The JSON value of a node: a text is a text, and an element an object. -/
def toValue : Node -> Json.Value
  | .text content => .text content
  | .element tag style attributes children =>
      .object (Json.textField "tag" tag ++ Json.entriesField "style" style ++
        Json.entriesField "attributes" attributes ++
        Json.listField "children" (toValues children))

/-- The JSON values of some nodes. -/
def toValues : List Node -> List Json.Value
  | [] => []
  | child :: others => child.toValue :: toValues others

end

end Node

/-- Progress of a walk: the trees that are still to be visited. -/
structure Walk where
  pending : List Node

namespace Walk

/-- A walk that is about to visit a tree. -/
def start (node : Node) : Walk :=
  ⟨[node]⟩

/-- The node that the walk visits next, and the walk after it. Its children are
visited before anything that was pending. -/
def next? : Walk -> Option (Node × Walk)
  | ⟨[]⟩ => none
  | ⟨node :: pending⟩ => some (node, ⟨node.children ++ pending⟩)

/-- The nodes that the walk has yet to visit, in the order of the visits. -/
def visited (walk : Walk) : List Node :=
  match walk with
  | ⟨[]⟩ => []
  | ⟨node :: pending⟩ => node :: visited ⟨node.children ++ pending⟩
termination_by Node.sizeAll walk.pending
decreasing_by
  simp only [Node.sizeAll_append, Node.sizeAll_cons, Node.size_eq node]
  omega

/-- What a walk has yet to visit is its next node, and then what the walk after
it has yet to visit. -/
theorem visited_eq (walk : Walk) :
    walk.visited =
      match walk.next? with
      | none => []
      | some (node, later) => node :: later.visited := by
  rcases walk with ⟨_ | ⟨node, pending⟩⟩ <;> rw [visited] <;> rfl

end Walk

namespace Node

/-- The nodes of the tree in the order of a walk. -/
def walk (node : Node) : List Node :=
  (Walk.start node).visited

/-- All texts of the tree, in document order. -/
def textContent (node : Node) : Text :=
  node.walk.flatMap ownText

end Node
end Markup
end CellPreview
