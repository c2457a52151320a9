import Accord.Script.Walk

/-!
# `Accord.Proofs.Script.Walk`: the walk by recursion on the tree

`Node.walk` keeps a list of places still to visit. `Node.places` lists the places of a tree by
recursion on the tree, and `walk_eq_places` says that the two agree. An invariant of the walk is
in it: what is still to come is what the places of the list have below them, one after the
other. `map_node_walk` says the same of the nodes without what is around them.

`Node.mem_walk_of_suffix` says that the nodes around a place of a tree are at places of the
tree.
-/

set_option autoImplicit false

namespace Accord.Script

namespace Node

mutual

/-- The places of a tree that stands below other nodes, each before what is below it. -/
def places (above : List Node) : Node → List Place
  | .mk kind role gap lexeme children =>
    ⟨.mk kind role gap lexeme children, above⟩ ::
      placesAll (.mk kind role gap lexeme children :: above) children

/-- The places of several trees that stand below the same nodes. -/
def placesAll (above : List Node) : List Node → List Place
  | [] => []
  | node :: rest => places above node ++ placesAll above rest

end

/-- `placesAll` is `places` on each node of the list in turn. -/
theorem placesAll_eq_flatMap (above nodes : List Node) :
    placesAll above nodes = nodes.flatMap (places above) := by
  induction nodes with
  | nil => rw [placesAll, List.flatMap_nil]
  | cons node rest ih => rw [placesAll, ih, List.flatMap_cons]

/-- The places of a tree are its own and those of its children. -/
theorem places_eq (above : List Node) (node : Node) :
    node.places above = ⟨node, above⟩ :: node.children.flatMap (places (node :: above)) := by
  cases node with
  | mk kind role gap lexeme children => rw [places, placesAll_eq_flatMap, Node.children]

/-- `preorderAll` is `preorder` on each node of the list in turn. -/
theorem preorderAll_eq_flatMap (nodes : List Node) :
    preorderAll nodes = nodes.flatMap preorder := by
  induction nodes with
  | nil => rw [preorderAll, List.flatMap_nil]
  | cons node rest ih => rw [preorderAll, ih, List.flatMap_cons]

/-- The nodes of a tree are its own and those of its children. -/
theorem preorder_eq (node : Node) : node.preorder = node :: node.children.flatMap preorder := by
  cases node with
  | mk kind role gap lexeme children => rw [preorder, preorderAll_eq_flatMap, Node.children]

end Node

/-- The walk visits what the places of its list have below them, one after the other. -/
theorem Place.walkAll_eq_flatMap (list : List Place) :
    walkAll list = list.flatMap fun place => place.node.places place.above := by
  induction list using walkAll.induct with
  | case1 => rw [walkAll, List.flatMap_nil]
  | case2 place rest ih =>
    rw [walkAll, ih, List.flatMap_append, List.flatMap_cons, Node.places_eq, List.cons_append,
      children, List.flatMap_map]

/-- The walk through a tree visits its places. -/
theorem Node.walk_eq_places (root : Node) : root.walk = root.places [] := by
  rw [walk, Place.walkAll_eq_flatMap, List.flatMap_singleton]

/-- The nodes at the visited places are those that recursion on the trees lists. -/
theorem Place.map_node_walkAll (list : List Place) :
    (walkAll list).map Place.node = (list.map Place.node).flatMap Node.preorder := by
  induction list using walkAll.induct with
  | case1 => rw [walkAll, List.map_nil, List.flatMap_nil]
  | case2 place rest ih =>
    have below : place.children.map Place.node = place.node.children := by
      simp [children, Function.comp_def]
    rw [walkAll, List.map_cons, ih, List.map_append, below, List.flatMap_append, List.map_cons,
      List.flatMap_cons, Node.preorder_eq place.node, List.cons_append]

/-- The nodes that the walk through a tree visits are those that recursion on the tree lists. -/
theorem Node.map_node_walk (root : Node) : root.walk.map Place.node = root.preorder := by
  rw [walk, Place.map_node_walkAll, List.map_singleton, List.flatMap_singleton]

/-- The nodes around a visited place are visited, as far as the places to start with are not below
them. -/
theorem Place.mem_walkAll_of_suffix {list : List Place} {place : Place} {node : Node}
    {outer : List Node} (visited : place ∈ walkAll list) (around : node :: outer <:+ place.above) :
    (⟨node, outer⟩ : Place) ∈ walkAll list ∨ ∃ start ∈ list, node :: outer <:+ start.above := by
  induction list using walkAll.induct with
  | case1 =>
    rw [walkAll] at visited
    cases visited
  | case2 start rest ih =>
    rw [walkAll] at visited ⊢
    rcases List.mem_cons.1 visited with rfl | later
    · exact .inr ⟨place, List.mem_cons_self, around⟩
    · rcases ih later with found | ⟨first, member, above⟩
      · exact .inl (List.mem_cons_of_mem _ found)
      · rcases List.mem_append.1 member with child | other
        · -- The place to start with is a child: the node is its parent, or around that.
          obtain ⟨below, -, rfl⟩ := List.mem_map.1 child
          rcases List.suffix_cons_iff.1 above with same | further
          · obtain ⟨rfl, rfl⟩ := List.cons.inj same
            exact .inl List.mem_cons_self
          · exact .inr ⟨start, List.mem_cons_self, further⟩
        · exact .inr ⟨first, List.mem_cons_of_mem _ other, above⟩

/-- The nodes around a place of a tree are at places of the tree. -/
theorem Node.mem_walk_of_suffix {root node : Node} {place : Place} {outer : List Node}
    (visited : place ∈ root.walk) (around : node :: outer <:+ place.above) :
    (⟨node, outer⟩ : Place) ∈ root.walk := by
  rcases Place.mem_walkAll_of_suffix visited around with found | ⟨start, member, above⟩
  · exact found
  · obtain rfl := List.mem_singleton.1 member
    cases List.suffix_nil.1 above

end Accord.Script
