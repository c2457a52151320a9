import Accord.Calls
import Accord.Proofs.Script.Position
import Accord.Proofs.Types.Collect

/-!
# `Accord.Proofs.DocumentOrder`: calls and declarations in the order of the text

The endpoints and the declarations of a unit are read off one walk through its tree, and what a
place gives does not depend on the places before it (`Calls.outcome_find_eq`,
`Types.outcome_find_cases`). So they stand in the order in which the walk comes to their nodes:
what is inside another call or declaration comes behind it and before what follows it. A
declaration that cannot be told takes the others with it, and then there is no list whose order
could be asked for.
-/

set_option autoImplicit false

namespace Accord

open Script (Node Place Sweep)

variable {ε : Type}

namespace Calls

/-- The endpoint of a place, if a call stands there that counts and its URL is not refused. -/
def endpointAt? (names : Names) (source : String) (root : Node) (place : Place) :
    Option CodeEndpoint :=
  if isCallOf names.call place.node then
    (siteOf? names root.basePath source place).bind Site.endpoint?
  else none

/-- The endpoints of a tree are those of its places, in the order of the walk. -/
theorem outcome_find_eq (names : Names) (unit : SourceUnit) (root : Node) :
    (find names unit root : Report ε (List CodeEndpoint)).outcome =
      .ok (root.walk.filterMap (endpointAt? names unit.path root)) := by
  have gives : ∀ place : Place, endpointAt? names unit.path root place =
      (if isCallOf names.call place.node then siteOf? names root.basePath unit.path place
        else none).bind Site.endpoint? := by
    intro place
    rw [endpointAt?]
    split <;> rfl
  simp only [find, sites, List.filterMap_filter, List.filterMap_filterMap, gives]

end Calls

namespace Types

/-- Where all declarations are told, the definitions of the nodes are those that are listed. -/
theorem filterMap_definition? {places : List Place}
    (told : ∀ place ∈ places, isTold place.node = true) :
    places.filterMap (fun place => definition? place.node) =
      (places.filterMap fun place => told? place.node).map .ok := by
  induction places with
  | nil => rfl
  | cons place rest ih =>
    have others := ih fun later member => told later (List.mem_cons_of_mem _ member)
    have first := told place List.mem_cons_self
    rcases defined : definition? place.node with - | ⟨fault⟩ | ⟨definition⟩
    · simpa [told?, defined] using others
    · simp [isTold, defined, Except.isOk, Except.toBool] at first
    · simpa [told?, defined, Except.toOption] using others

/-- The declarations of a tree are listed in the order of the walk, or one of them is not told. -/
theorem outcome_find_cases (unit : SourceUnit) (root : Node) :
    (∃ definitions, (find unit root).outcome = .ok definitions ∧
      root.walk.filterMap (fun place => definition? place.node) = definitions.map .ok) ∨
    ∃ fault, (find unit root).outcome = .error fault ∧
      ∃ place ∈ root.walk, definition? place.node = some (.error fault) := by
  rw [outcome_find]
  split
  · next told => exact .inl ⟨_, rfl, filterMap_definition? (List.all_eq_true.1 told)⟩
  · next untold =>
    refine .inr ⟨_, rfl, ?_⟩
    -- A node that is not told is the first witness of a fault; `definition?` has no other kind of
    -- fault.
    obtain ⟨place, visited, failed⟩ : ∃ place ∈ root.walk, isTold place.node = false := by
      simpa using untold
    refine ⟨place, visited, ?_⟩
    rcases defined : definition? place.node with - | ⟨fault⟩ | ⟨definition⟩
    · simp [isTold, defined] at failed
    · cases fault
      rfl
    · simp [isTold, defined, Except.isOk, Except.toBool] at failed

end Types

/-- **The walk goes through a tree in the order of the text.** Pass by pass it comes to the nodes as
recursion on the tree lists them, and it ends after as many passes as there are nodes. Places,
endpoints and declarations are given once for every position that leads to one, at any depth, and in
the order of the positions; declarations as long as none of them is one that cannot be told. -/
theorem walk_in_order_of_text (root : Node) :
    (∀ count, (Sweep.pass^[count] (.start root)).visited = root.walk.take count ∧
      ((Sweep.pass^[count] (.start root)).pending = [] ↔ root.size ≤ count)) ∧
    root.walk.length = root.size ∧
    root.walk.map Place.node = root.preorder ∧
    root.InOrder some root.walk ∧
    (∀ names unit, ∃ endpoints,
      (Calls.find names unit root : Report ε (List CodeEndpoint)).outcome = .ok endpoints ∧
        root.InOrder (Calls.endpointAt? names unit.path root) endpoints) ∧
    ∀ unit,
      (∃ definitions, (Types.find unit root).outcome = .ok definitions ∧
        root.InOrder (fun place => Types.definition? place.node) (definitions.map .ok)) ∨
      ∃ fault, (Types.find unit root).outcome = .error fault ∧
        ∃ place ∈ root.walk, Types.definition? place.node = some (.error fault) := by
  refine ⟨fun count => ⟨?_, ?_⟩, root.length_walk, root.map_node_walk, ?_, fun names unit => ?_,
    fun unit => ?_⟩
  -- The loop and the recursion agree after every number of passes, so also after the last one.
  · exact Sweep.visited_iterate_pass count (.start root)
  · exact Sweep.pending_iterate_pass_eq_nil_iff count root
  · have all : root.walk.filterMap some = root.walk := List.filterMap_some
    exact all ▸ root.inOrder_filterMap_walk some
  · exact ⟨_, Calls.outcome_find_eq names unit root, root.inOrder_filterMap_walk _⟩
  -- Declarations fail as a whole, which is why their order is stated for the first case alone.
  · rcases Types.outcome_find_cases unit root with ⟨definitions, listed, all⟩ | failed
    · exact .inl ⟨definitions, listed, all ▸ root.inOrder_filterMap_walk _⟩
    · exact .inr failed

end Accord
