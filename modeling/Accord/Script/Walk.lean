import Accord.Script.Node

/-!
# `Accord.Script.Walk`: the nodes of a tree in document order

A `Place` is a node together with the nodes that enclose it, innermost first. `walk` goes
through all places of a tree with a list of places still to visit; `preorder` lists the nodes by
recursion.
-/

set_option autoImplicit false

namespace Accord.Script

/-- A node and the nodes around it, innermost first. -/
structure Place where
  node : Node
  above : List Node

namespace Place

/-- The places of the children. -/
def children (place : Place) : List Place :=
  place.node.children.map fun child => ⟨child, place.node :: place.above⟩

/-- The number of nodes still to visit. -/
def pending (places : List Place) : Nat :=
  Node.sizeAll (places.map Place.node)

/-- The size of two lists of nodes behind each other is the sum of their sizes. -/
theorem sizeAll_append (first second : List Node) :
    Node.sizeAll (first ++ second) = Node.sizeAll first + Node.sizeAll second := by
  induction first with
  | nil => simp [Node.sizeAll]
  | cons node rest ih => simp [Node.sizeAll, ih, Nat.add_assoc]

/-- A visit leaves fewer nodes to visit. -/
theorem pending_visit_lt (place : Place) (rest : List Place) :
    pending (place.children ++ rest) < pending (place :: rest) := by
  have h : place.children.map Place.node = place.node.children := by
    simp [children, Function.comp_def]
  have hs : place.node.size = Node.sizeAll place.node.children + 1 := by
    cases place.node
    simp [Node.size, Node.children]
  simp only [pending, List.map_append, h, sizeAll_append, List.map_cons, Node.sizeAll, hs]
  omega

/-- Visits the places of a list and everything below them, in document order. -/
def walkAll : List Place → List Place
  | [] => []
  | place :: rest => place :: walkAll (place.children ++ rest)
termination_by places => pending places
decreasing_by exact pending_visit_lt place rest

end Place

namespace Node

/-- The places of a tree in document order, each node before what is below it. -/
def walk (root : Node) : List Place :=
  Place.walkAll [⟨root, []⟩]

mutual

/-- The nodes of a tree, each before what is below it. -/
def preorder : Node → List Node
  | .mk kind role gap lexeme children =>
    .mk kind role gap lexeme children :: preorderAll children

/-- The nodes of several trees. -/
def preorderAll : List Node → List Node
  | [] => []
  | node :: rest => preorder node ++ preorderAll rest

end

end Node

end Accord.Script
