import Accord.Proofs.Script.Walk
import Mathlib.Data.List.Basic
import Mathlib.Logic.Function.Iterate

/-!
# `Accord.Proofs.Script.Position`: where the nodes of a tree stand

A tree may hold one node several times, so a node is not told by itself but by its position: the
numbers of the children on the way to it from the top. `Node.placeAt?` follows a position, and
`Node.positions` lists those that lead to a node.

Positions are compared like words. A node comes before what is below it, as its position is the
beginning of theirs, and what is below a child comes before the next child. `pairwise_positions`
says that they are listed in that order, and so each of them once; `map_placeAt?_positions` that
the walk goes through them.

`Sweep.pass` is one pass of the walk with what is visited so far and what is still to come.
After so many passes as there are nodes nothing is left (`pending_iterate_pass_eq_nil_iff`), and
after fewer the walk has come as far as that (`visited_iterate_pass`).
-/

set_option autoImplicit false

namespace Accord.Script

/-! ### Passes of the walk -/

/-- The walk between two passes. -/
structure Sweep where
  /-- The places still to visit, next one first. -/
  pending : List Place
  /-- The places that are visited, in order. -/
  visited : List Place

namespace Sweep

/-- One pass: the next place is visited, and its children come before all others. -/
def pass : Sweep → Sweep
  | ⟨[], visited⟩ => ⟨[], visited⟩
  | ⟨place :: rest, visited⟩ => ⟨place.children ++ rest, visited ++ [place]⟩

/-- The walk through a tree before its first pass. -/
def start (root : Node) : Sweep :=
  ⟨[⟨root, []⟩], []⟩

/-- What is to come after some passes is what was to come, without as many places. -/
theorem walkAll_pending_iterate_pass (count : Nat) (sweep : Sweep) :
    Place.walkAll (pass^[count] sweep).pending = (Place.walkAll sweep.pending).drop count := by
  induction count generalizing sweep with
  | zero => rfl
  | succ count ih =>
    rw [Function.iterate_succ_apply, ih]
    match sweep with
    | ⟨[], visited⟩ => simp [pass, Place.walkAll]
    | ⟨place :: rest, visited⟩ => rw [pass, Place.walkAll, List.drop_succ_cons]

/-- What is visited after some passes is what was visited, and the first of what was to come. -/
theorem visited_iterate_pass (count : Nat) (sweep : Sweep) :
    (pass^[count] sweep).visited =
      sweep.visited ++ (Place.walkAll sweep.pending).take count := by
  induction count generalizing sweep with
  | zero => simp
  | succ count ih =>
    rw [Function.iterate_succ_apply, ih]
    match sweep with
    | ⟨[], visited⟩ => simp [pass, Place.walkAll]
    | ⟨place :: rest, visited⟩ =>
      rw [pass, Place.walkAll, List.take_succ_cons, List.append_assoc, List.singleton_append]

end Sweep

/-- A walk visits as many places as there are nodes. -/
theorem Place.length_walkAll (list : List Place) : (walkAll list).length = pending list := by
  induction list using walkAll.induct with
  | case1 => rw [walkAll]; rfl
  | case2 place rest ih =>
    have below : place.children.map Place.node = place.node.children := by
      simp [children, Function.comp_def]
    have own : place.node.size = Node.sizeAll place.node.children + 1 := by
      cases place.node
      rw [Node.size, Node.children]
    rw [walkAll, List.length_cons, ih, pending, pending, List.map_append, below, sizeAll_append,
      List.map_cons, Node.sizeAll, own]
    omega

/-- A walk visits every node once. -/
theorem Node.length_walk (root : Node) : root.walk.length = root.size := by
  rw [walk, Place.length_walkAll]
  simp [Place.pending, sizeAll]

/-- Nothing is left to visit after so many passes as the tree has nodes, and not before. -/
theorem Sweep.pending_iterate_pass_eq_nil_iff (count : Nat) (root : Node) :
    (pass^[count] (start root)).pending = [] ↔ root.size ≤ count := by
  have none : ∀ list : List Place, list = [] ↔ Place.walkAll list = [] := by
    intro list
    cases list <;> simp [Place.walkAll]
  rw [none, walkAll_pending_iterate_pass, List.drop_eq_nil_iff, ← root.length_walk]
  rfl

namespace Node

/-! ### Positions -/

/-- The place that a position leads to from a node that stands below other nodes. -/
def placeAt? (node : Node) (above : List Node) : List Nat → Option Place
  | [] => some ⟨node, above⟩
  | index :: rest => node.children[index]?.bind fun child => child.placeAt? (node :: above) rest

mutual

/-- The positions in a tree, each before what is below it. -/
def positions : Node → List (List Nat)
  | .mk _ _ _ _ children => [] :: positionsFrom 0 children

/-- The positions in several trees that are children, the first of which has this number. -/
def positionsFrom (index : Nat) : List Node → List (List Nat)
  | [] => []
  | node :: rest => (positions node).map (index :: ·) ++ positionsFrom (index + 1) rest

end

/-- The positions of a node are its own and those below it. -/
theorem positions_eq (node : Node) : node.positions = [] :: positionsFrom 0 node.children := by
  cases node with
  | mk kind role gap lexeme children => rw [positions, Node.children]

/-- A position in a list of nodes is the number of a node and a position in it. -/
theorem mem_positionsFrom_iff {index : Nat} {nodes : List Node} {position : List Nat} :
    position ∈ positionsFrom index nodes ↔ ∃ offset child rest,
      position = (index + offset) :: rest ∧ nodes[offset]? = some child ∧
        rest ∈ child.positions := by
  induction nodes generalizing index with
  | nil => simp [positionsFrom]
  | cons node others ih =>
    rw [positionsFrom, List.mem_append, List.mem_map, ih]
    constructor
    · rintro (⟨rest, member, rfl⟩ | ⟨offset, child, rest, rfl, found, member⟩)
      · exact ⟨0, node, rest, rfl, rfl, member⟩
      · refine ⟨offset + 1, child, rest, ?_, found, member⟩
        rw [Nat.add_right_comm, Nat.add_assoc]
    · rintro ⟨_ | offset, child, rest, rfl, found, member⟩
      · obtain rfl := Option.some.inj found
        exact .inl ⟨rest, member, rfl⟩
      · refine .inr ⟨offset, child, rest, ?_, found, member⟩
        rw [Nat.add_right_comm, Nat.add_assoc]

/-- The positions of a tree are those that lead to a place. -/
theorem mem_positions_iff {node : Node} {above : List Node} {position : List Nat} :
    position ∈ node.positions ↔ (node.placeAt? above position).isSome = true := by
  induction position generalizing node above with
  | nil => simp [positions_eq, placeAt?]
  | cons index rest ih =>
    rw [positions_eq, List.mem_cons, mem_positionsFrom_iff, placeAt?]
    cases found : node.children[index]? with
    | none => simp [found]
    | some child =>
      have below : rest ∈ child.positions ↔
          (child.placeAt? (node :: above) rest).isSome = true := ih
      simp [found, below]

mutual

/-- The positions are listed like words in a dictionary. -/
theorem pairwise_positions : ∀ node : Node, node.positions.Pairwise (· < ·)
  | .mk _ _ _ _ children => by
    rw [positions]
    refine List.pairwise_cons.2 ⟨fun position member => ?_, pairwise_positionsFrom 0 children⟩
    obtain ⟨offset, child, rest, rfl, -, -⟩ := mem_positionsFrom_iff.1 member
    exact List.Lex.nil

/-- The positions in a list of nodes are in order. -/
theorem pairwise_positionsFrom : ∀ (index : Nat) (nodes : List Node),
    (positionsFrom index nodes).Pairwise (· < ·)
  | _, [] => by
    rw [positionsFrom]
    exact .nil
  | index, node :: others => by
    rw [positionsFrom]
    refine List.pairwise_append.2 ⟨?_, pairwise_positionsFrom (index + 1) others, ?_⟩
    · exact (pairwise_positions node).map _ fun _ _ before => List.Lex.cons before
    -- Two positions in different nodes differ in the first number.
    · intro first one second two
      obtain ⟨rest, -, rfl⟩ := List.mem_map.1 one
      obtain ⟨offset, child, rest', rfl, -, -⟩ := mem_positionsFrom_iff.1 two
      exact List.Lex.rel (by omega)

end

mutual

/-- The positions of a tree lead to its places, one after the other. -/
theorem map_placeAt?_positions : ∀ (node : Node) (above : List Node),
    node.positions.map (node.placeAt? above) = (node.places above).map some
  | .mk kind role gap lexeme children, above => by
    rw [positions, places, List.map_cons, List.map_cons, placeAt?,
      map_placeAt?_positionsFrom (.mk kind role gap lexeme children) above 0 children
        fun offset => by rw [Nat.zero_add, Node.children]]

/-- The positions in a list of children lead to the places of these, one by one. -/
theorem map_placeAt?_positionsFrom : ∀ (parent : Node) (above : List Node) (index : Nat)
    (nodes : List Node), (∀ offset : Nat, parent.children[index + offset]? = nodes[offset]?) →
      (positionsFrom index nodes).map (parent.placeAt? above) =
        (placesAll (parent :: above) nodes).map some
  | _, _, _, [], _ => by rw [positionsFrom, placesAll, List.map_nil, List.map_nil]
  | parent, above, index, node :: others, aligned => by
    have first : parent.children[index]? = some node := aligned 0
    have below : ∀ position, parent.placeAt? above (index :: position) =
        node.placeAt? (parent :: above) position := by
      intro position
      rw [placeAt?, first, Option.bind_some]
    -- The rest of the list are the children from the next number on.
    have later : ∀ offset : Nat, parent.children[index + 1 + offset]? = others[offset]? := by
      intro offset
      have moved := aligned (offset + 1)
      rwa [List.getElem?_cons_succ, Nat.add_comm offset 1, ← Nat.add_assoc] at moved
    rw [positionsFrom, placesAll, List.map_append, List.map_append, List.map_map,
      map_placeAt?_positionsFrom parent above (index + 1) others later,
      ← map_placeAt?_positions node (parent :: above)]
    congr 1
    exact List.map_congr_left fun position _ => below position

end

/-! ### Results in the order of the text -/

variable {α : Type} {root : Node} {answer : Place → Option α}

/-- Results stand in the order of the text: there is one for every position in a tree whose place
gives one, and they stand in the order of the positions. -/
def InOrder (root : Node) (answer : Place → Option α) (results : List α) : Prop :=
  ∃ found : List (List Nat × α), found.map Prod.snd = results ∧
    (found.map Prod.fst).Pairwise (· < ·) ∧
    ∀ position result, (position, result) ∈ found ↔
      ∃ place, root.placeAt? [] position = some place ∧ answer place = some result

/-- What the place at a position gives, with the position. -/
def resultAt? (root : Node) (answer : Place → Option α) (position : List Nat) :
    Option (List Nat × α) :=
  ((root.placeAt? [] position).bind answer).map (Prod.mk position)

/-- A result at a position is what the place there gives. -/
theorem resultAt?_eq_some_iff {position : List Nat} {entry : List Nat × α} :
    root.resultAt? answer position = some entry ↔ position = entry.1 ∧
      ∃ place, root.placeAt? [] position = some place ∧ answer place = some entry.2 := by
  rw [resultAt?, Option.map_eq_some_iff]
  simp only [Option.bind_eq_some_iff]
  constructor
  · rintro ⟨result, gives, rfl⟩
    exact ⟨rfl, gives⟩
  · rintro ⟨rfl, gives⟩
    exact ⟨entry.2, gives, rfl⟩

/-- What the places of a walk give stands in the order of the text. -/
theorem inOrder_filterMap_walk (root : Node) (answer : Place → Option α) :
    root.InOrder answer (root.walk.filterMap answer) := by
  refine ⟨root.positions.filterMap (root.resultAt? answer), ?results, ?ordered, ?complete⟩
  case results =>
    calc (root.positions.filterMap (root.resultAt? answer)).map Prod.snd
        = root.positions.filterMap fun position => (root.placeAt? [] position).bind answer := by
          rw [List.map_filterMap]
          congr 1
          funext position
          simp [resultAt?, Function.comp_def]
      _ = (root.positions.map (root.placeAt? [])).filterMap fun place? => place?.bind answer := by
          rw [List.filterMap_map]
          rfl
      _ = root.walk.filterMap answer := by
          rw [map_placeAt?_positions, List.filterMap_map, walk_eq_places]
          rfl
  case ordered =>
    refine List.pairwise_map.2 (root.pairwise_positions.filterMap _ ?_)
    intro first second before one isOne two isTwo
    rwa [← (resultAt?_eq_some_iff.1 isOne).1, ← (resultAt?_eq_some_iff.1 isTwo).1]
  case complete =>
    intro position result
    rw [List.mem_filterMap]
    constructor
    · rintro ⟨_, -, found⟩
      obtain ⟨rfl, gives⟩ := resultAt?_eq_some_iff.1 found
      exact gives
    · rintro ⟨place, leads, gives⟩
      refine ⟨position, mem_positions_iff.2 (Option.isSome_of_eq_some leads), ?_⟩
      exact resultAt?_eq_some_iff.2 ⟨rfl, place, leads, gives⟩

end Node

end Accord.Script
