import CellPreview.Proofs.Markup.Walk
import CellPreview.Proofs.Rendering.Place

/-!
# What a walk visits

A walk from the root of a tree visits the node at every place of the tree, each
place once and in document order, which is the order of the recursive
traversal. It takes as many steps as there are nodes and ends.
-/

namespace CellPreview

/-- A place does not come before itself. -/
theorem Place.Precedes.ne
    {first second : Place}
    (precedes : first.Precedes second) :
    first ≠ second :=
  (precedes.imp fun _ _ => Nat.ne_of_lt).to_ne

namespace Markup

namespace Walk

/-- The walk after some steps, or at its end if there are not as many. -/
def after : Nat -> Walk -> Walk
  | 0, walk => walk
  | steps + 1, walk =>
      match walk.next? with
      | none => walk
      | some (_, later) => later.after steps

/-- A step visits the first of the nodes that are left, and after some steps as
many of them are gone. -/
theorem next?_after (steps : Nat) (walk : Walk) :
    (walk.after steps).next?.map Prod.fst = walk.visited[steps]? := by
  induction steps generalizing walk with
  | zero =>
      rw [after, visited_eq]
      cases walk.next? <;> rfl
  | succ steps inductionHypothesis =>
      rw [after, visited_eq]
      cases found : walk.next? with
      | none => simp [found]
      | some visit => exact inductionHypothesis visit.2

end Walk

namespace Node

/-! ## Number of nodes -/

mutual

theorem length_preorder (node : Node) : node.preorder.length = node.size := by
  cases node with
  | text => rw [preorder, size, List.length_singleton]
  | element tag style attributes children =>
      rw [preorder, size, List.length_cons, length_preorderAll children,
        Nat.add_comm]

theorem length_preorderAll (nodes : List Node) :
    (preorderAll nodes).length = sizeAll nodes := by
  cases nodes with
  | nil => rw [preorderAll, sizeAll, List.length_nil]
  | cons node others =>
      rw [preorderAll, sizeAll, List.length_append, length_preorder node,
        length_preorderAll others]

end

/-! ## Places of the nodes -/

mutual

/-- The places of the nodes of a tree, every one before those below it. -/
def places : Node -> List Place
  | .text _ => [[]]
  | .element _ _ _ children => [] :: placesFrom 0 children

/-- The places of the nodes of some trees, which are children from an index
on. -/
def placesFrom : Nat -> List Node -> List Place
  | _, [] => []
  | index, child :: others =>
      child.places.map (index :: ·) ++ placesFrom (index + 1) others

end

theorem places_eq (node : Node) :
    node.places = [] :: placesFrom 0 node.children := by
  cases node <;> simp [places, placesFrom, children]

theorem mem_placesFrom {start : Nat} {children : List Node} {place : Place} :
    place ∈ placesFrom start children ↔
      ∃ index child inner, children[index]? = some child ∧
        place = (start + index) :: inner ∧ inner ∈ child.places := by
  induction children generalizing start with
  | nil => simp [placesFrom]
  | cons first others inductionHypothesis =>
      rw [placesFrom, List.mem_append, inductionHypothesis, List.mem_map]
      constructor
      · rintro (⟨inner, present, rfl⟩ |
          ⟨index, child, inner, isChild, rfl, present⟩)
        · exact ⟨0, first, inner, rfl, rfl, present⟩
        · exact ⟨index + 1, child, inner, isChild, by congr 1; omega, present⟩
      · rintro ⟨_ | index, child, inner, isChild, rfl, present⟩
        · cases isChild
          exact .inl ⟨inner, present, rfl⟩
        · exact .inr ⟨index, child, inner, isChild, by congr 1; omega, present⟩

/-- The places that are listed are those at which there is a node. -/
theorem mem_places {node : Node} {place : Place} :
    place ∈ node.places ↔ (node.at? place).isSome := by
  induction place generalizing node with
  | nil => simp [places_eq]
  | cons index place inductionHypothesis =>
      rw [places_eq, at?_cons, Option.isSome_bind, Option.any_eq_true]
      simp [mem_placesFrom, ← inductionHypothesis]

mutual

/-- The places are listed in document order. -/
theorem pairwise_places (node : Node) :
    node.places.Pairwise Place.Precedes := by
  cases node with
  | text => rw [places]; exact List.pairwise_singleton _ _
  | element tag style attributes children =>
      rw [places, List.pairwise_cons]
      refine ⟨fun place isBelow => ?_, pairwise_placesFrom 0 children⟩
      obtain ⟨_, _, _, _, rfl, _⟩ := mem_placesFrom.mp isBelow
      exact .nil

theorem pairwise_placesFrom (start : Nat) (children : List Node) :
    (placesFrom start children).Pairwise Place.Precedes := by
  cases children with
  | nil => simp [placesFrom]
  | cons child others =>
      rw [placesFrom, List.pairwise_append, List.pairwise_map]
      -- places in one child agree in the first index, which grows from child to
      -- child
      refine ⟨(pairwise_places child).imp .cons,
        pairwise_placesFrom (start + 1) others, ?_⟩
      rintro _ isFirst place isLater
      obtain ⟨first, _, rfl⟩ := List.mem_map.mp isFirst
      obtain ⟨index, _, _, _, rfl, _⟩ := mem_placesFrom.mp isLater
      exact .rel (by omega)

end

mutual

/-- The nodes at the places of a tree are its nodes in preorder. -/
theorem map_at?_places (node : Node) :
    node.places.map node.at? = node.preorder.map some := by
  cases node with
  | text content => simp [places, preorder]
  | element tag style attributes children =>
      rw [places, preorder, List.map_cons, List.map_cons, at?_nil,
        map_at?_placesFrom children List.drop_zero]

theorem map_at?_placesFrom
    {node : Node}
    {start : Nat}
    (children : List Node)
    (remaining : node.children.drop start = children) :
    (placesFrom start children).map node.at? =
      (preorderAll children).map some := by
  cases children with
  | nil => simp [placesFrom]
  | cons child others =>
      have isChild : node.children[start]? = some child := by
        rw [← List.head?_drop, remaining, List.head?_cons]
      have othersRemain : node.children.drop (start + 1) = others := by
        rw [← List.tail_drop, remaining, List.tail_cons]
      have below : node.at? ∘ (start :: ·) = child.at? := by
        funext place
        rw [Function.comp_apply, at?_cons, isChild, Option.bind_some]
      rw [placesFrom, preorderAll, List.map_append, List.map_append,
        List.map_map, below, map_at?_places child,
        map_at?_placesFrom others othersRemain]

end

/-! ## The walk from the root -/

/-- A walk from the root visits its nodes in the order of the recursive
traversal, one at each step, and ends after as many steps as there are nodes.
These are the nodes at the places of the tree, each place once and all of them
in document order. -/
theorem walk_visits_places_once (node : Node) :
    (∀ steps, ((Walk.start node).after steps).next?.map Prod.fst =
        node.preorder[steps]?) ∧
      (∀ steps, ((Walk.start node).after steps).next? = none ↔
        node.size ≤ steps) ∧
      node.walk = node.preorder ∧
      ∃ places : List Place,
        (∀ place, place ∈ places ↔ (node.at? place).isSome) ∧
        places.Nodup ∧ places.Pairwise Place.Precedes ∧
        places.map node.at? = node.preorder.map some := by
  have visits (steps : Nat) :
      ((Walk.start node).after steps).next?.map Prod.fst =
        node.preorder[steps]? := by
    rw [Walk.next?_after, ← walk_eq_preorder, walk]
  have ordered := pairwise_places node
  refine ⟨visits, fun steps => ?_, walk_eq_preorder node, node.places,
    fun _ => mem_places, ordered.imp Place.Precedes.ne, ordered,
    map_at?_places node⟩
  rw [← Option.map_eq_none_iff, visits, List.getElem?_eq_none_iff,
    length_preorder]

end Node
end Markup
end CellPreview
