import Accord.Proofs.Script.Walk

/-!
# `Accord.Proofs.Script.Frame`: what is around a place

A `Frame` is a node without one of its children, and a list of frames, innermost first, is a
tree without one place. `mem_walk_plug` says that the place which is filled is visited, and
`exists_frames_of_mem_walk` that every visited place is of this form.
-/

set_option autoImplicit false

namespace Accord.Script

/-- A node without one of its children. -/
structure Frame where
  kind : Kind
  role : Option Role
  gap : String
  lexeme : String
  before : List Node
  after : List Node

namespace Frame

/-- The node with its child. -/
def fill (frame : Frame) (child : Node) : Node :=
  .mk frame.kind frame.role frame.gap frame.lexeme (frame.before ++ child :: frame.after)

/-- The tree that frames make around a node, innermost frame first. -/
def plug : List Frame → Node → Node
  | [], node => node
  | frame :: outer, node => plug outer (frame.fill node)

/-- The nodes that frames make around a node, innermost first. -/
def above : List Frame → Node → List Node
  | [], _ => []
  | frame :: outer, node => frame.fill node :: above outer (frame.fill node)

/-- Plugging into two rows of frames is plugging into the inner ones first. -/
theorem plug_append (inner outer : List Frame) (node : Node) :
    plug (inner ++ outer) node = plug outer (plug inner node) := by
  induction inner generalizing node with
  | nil => rfl
  | cons frame inner ih => exact ih (frame.fill node)

/-- The nodes above are those of the inner frames and then those of the outer ones. -/
theorem above_append (inner outer : List Frame) (node : Node) :
    above (inner ++ outer) node = above inner node ++ above outer (plug inner node) := by
  induction inner generalizing node with
  | nil => rfl
  | cons frame inner ih => exact congrArg (frame.fill node :: ·) (ih (frame.fill node))

/-- What is in a frame is among the children. -/
theorem mem_children_fill (frame : Frame) (child : Node) : child ∈ (frame.fill child).children :=
  List.mem_append_right _ List.mem_cons_self

/-- The places below a place are places of the tree. -/
theorem mem_walk_plug_of_mem_places {frames : List Frame} {node : Node} {place : Place}
    (below : place ∈ node.places (above frames node)) : place ∈ (plug frames node).walk := by
  induction frames generalizing node with
  | nil => rwa [Node.walk_eq_places]
  | cons frame outer ih =>
    refine ih ?_
    rw [Node.places_eq]
    exact List.mem_cons_of_mem _ (List.mem_flatMap.2 ⟨node, frame.mem_children_fill node, below⟩)

/-- The place that is filled is a place of the tree. -/
theorem mem_walk_plug (frames : List Frame) (node : Node) :
    (⟨node, above frames node⟩ : Place) ∈ (plug frames node).walk := by
  refine mem_walk_plug_of_mem_places ?_
  rw [Node.places_eq]
  exact List.mem_cons_self

/-- Every place that a walk visits is plugged into a node that the walk starts with. -/
theorem exists_frames_of_mem_walkAll {list : List Place} {place : Place}
    (visited : place ∈ Place.walkAll list) :
    ∃ start ∈ list, ∃ frames, plug frames place.node = start.node ∧
      place.above = above frames place.node ++ start.above := by
  induction list using Place.walkAll.induct with
  | case1 =>
    rw [Place.walkAll] at visited
    cases visited
  | case2 first rest ih =>
    rw [Place.walkAll] at visited
    rcases List.mem_cons.1 visited with rfl | later
    · exact ⟨place, List.mem_cons_self, [], rfl, rfl⟩
    · obtain ⟨start, member, frames, plugged, around⟩ := ih later
      rcases List.mem_append.1 member with child | other
      · -- The place to start with is a child: its parent is one more frame.
        obtain ⟨below, isChild, rfl⟩ := List.mem_map.1 child
        obtain ⟨before, after, split⟩ := List.append_of_mem isChild
        obtain ⟨⟨kind, role, gap, lexeme, children⟩, outer⟩ := first
        obtain rfl : children = before ++ below :: after := split
        refine ⟨_, List.mem_cons_self, frames ++ [⟨kind, role, gap, lexeme, before, after⟩], ?_, ?_⟩
        · rw [plug_append, plugged]
          rfl
        · rw [around, above_append, plugged, List.append_assoc]
          rfl
      · exact ⟨start, List.mem_cons_of_mem _ other, frames, plugged, around⟩

/-- Every place of a tree is made by frames. -/
theorem exists_frames_of_mem_walk {root : Node} {place : Place} (visited : place ∈ root.walk) :
    ∃ frames, plug frames place.node = root ∧ place.above = above frames place.node := by
  obtain ⟨start, member, frames, plugged, around⟩ := exists_frames_of_mem_walkAll visited
  obtain rfl := List.mem_singleton.1 member
  exact ⟨frames, plugged, by simpa using around⟩

end Frame

end Accord.Script
