import Accord.Proofs.SourceUnit
import Accord.Proofs.Types.Closure
import Accord.Types.Collect

/-!
# `Accord.Proofs.Types.Collect`: when the registry of units is built

A declaration is told unless it is an enumeration with a number that is too long to be written
(`isTold`). `Types.collect` gives a registry exactly when all declarations in the trees of the
units are told (`Built`), and then it is the `inheritedRegistry` of the declarations in the
order of the text. `outcome_collect` states both in one equation; the two halves that the other
modules use are `outcome_collect_of_built` and `built_of_outcome_collect`. `outcomes_collect` is
for two lists of units whose declarations are told alike.

Which nodes are declarations, and under which names, can be read off the trees without telling
them (`declarations`, `declaredNames`).
-/

set_option autoImplicit false

namespace Accord.Types

open Script (Node Place)

/-! ### One tree -/

/-- A node is no declaration, or one that is told. -/
def isTold (node : Node) : Bool :=
  (definition? node).all Except.isOk

/-- The definition of a node, if it declares a type and is told. -/
def told? (node : Node) : Option Definition :=
  (definition? node).bind Except.toOption

/-- A definition that is told is the one that the node has. -/
theorem told?_eq_some_iff {node : Node} {definition : Definition} :
    told? node = some definition ↔ definition? node = some (.ok definition) := by
  rw [told?]
  rcases definition? node with - | ⟨fault⟩ | ⟨own⟩ <;> simp [Except.toOption]

/-- A list of results gives all their values when none of them is a fault. There is but one
fault, so it does not matter which of them comes first. -/
theorem mapM_id_eq {α : Type} (results : List (Except Fault α)) :
    results.mapM id =
      if results.all Except.isOk then .ok (results.filterMap Except.toOption)
      else .error .numberTooLong := by
  induction results with
  | nil => rfl
  | cons result rest ih =>
    rw [List.mapM_cons, ih]
    cases result with
    | error fault =>
      cases fault
      rfl
    | ok value =>
      -- The head is kept, and the rest decides.
      simp only [id_eq, List.all_cons, List.filterMap_cons, Except.toOption]
      by_cases told : rest.all Except.isOk = true
      · simp [told, Except.isOk, Except.toBool]
        rfl
      · simp [told, Except.isOk, Except.toBool]
        rfl

/-- The declarations of a tree are those of its places, in order, if all of them are told. -/
theorem declaredIn_eq (root : Node) :
    declaredIn root =
      if root.walk.all fun place => isTold place.node then
        .ok (root.walk.filterMap fun place => told? place.node)
      else .error .numberTooLong := by
  have all : (root.walk.filterMap fun place => definition? place.node).all Except.isOk =
      root.walk.all fun place => isTold place.node :=
    List.all_filterMap
  rw [declaredIn, mapM_id_eq, all, List.filterMap_filterMap]
  rfl

/-! ### The declarations of units -/

/-- The nodes in the trees of units. -/
def nodesOf (units : List SourceUnit) : List Node :=
  SourceUnit.found units fun _ tree => tree.walk.map Place.node

/-- All declarations in the trees of units are told. -/
def Built (units : List SourceUnit) : Prop :=
  ∀ node ∈ nodesOf units, isTold node = true

/-- Whether all declarations are told is decided node by node. -/
instance (units : List SourceUnit) : Decidable (Built units) :=
  inferInstanceAs (Decidable (∀ _ ∈ _, _))

/-- The definitions in the trees of units, in the order of the text, as far as they are told. -/
def declaredBy (units : List SourceUnit) : List Definition :=
  (nodesOf units).filterMap told?

/-- The declarations in the trees of units, in the order of the text. -/
def declarations (units : List SourceUnit) : List Node :=
  (nodesOf units).filter fun node => (definition? node).isSome

/-- The names that units declare. -/
def declaredNames (units : List SourceUnit) : List String :=
  (declarations units).map (textIn .name)

/-- In another order the units have the same nodes in another order. -/
theorem nodesOf_perm {units others : List SourceUnit} (perm : units.Perm others) :
    (nodesOf units).Perm (nodesOf others) :=
  SourceUnit.found_perm perm _

/-- Whether the registry is built does not depend on the order of the units. -/
theorem built_of_perm {units others : List SourceUnit} (perm : units.Perm others)
    (built : Built units) : Built others :=
  fun node member => built node ((nodesOf_perm perm).mem_iff.2 member)

/-- Definitions are found unit by unit. -/
theorem declaredBy_eq_found (units : List SourceUnit) :
    declaredBy units =
      SourceUnit.found units fun _ tree => tree.walk.filterMap fun place => told? place.node := by
  rw [declaredBy, nodesOf, SourceUnit.found, SourceUnit.found, List.filterMap_flatMap]
  congr 1
  funext unit
  cases unit.tree? with
  | some tree => simp [List.filterMap_map]
  | none => rfl

/-- The definitions of units are those of their declarations. -/
theorem declaredBy_eq_filterMap_declarations (units : List SourceUnit) :
    declaredBy units = (declarations units).filterMap told? := by
  rw [declaredBy, declarations, List.filterMap_filter]
  congr 1
  funext node
  rw [told?]
  cases definition? node <;> rfl

/-- All declarations of units are told when every single one is. -/
theorem built_iff_declarations (units : List SourceUnit) :
    Built units ↔ ∀ node ∈ declarations units, isTold node = true := by
  constructor
  · exact fun built node member => built node (List.mem_filter.1 member).1
  · intro told node member
    cases defined : definition? node with
    | none => simp [isTold, defined]
    | some => exact told node (List.mem_filter.2 ⟨member, by simp [defined]⟩)

/-- A node whose definition is told has one, if it declares a type at all. -/
theorem exists_told?_of_isTold {node : Node} (told : isTold node = true)
    (declares : (definition? node).isSome = true) : ∃ definition, told? node = some definition := by
  obtain ⟨result, defined⟩ := Option.isSome_iff_exists.1 declares
  rw [isTold, defined] at told
  cases result with
  | error fault => cases told
  | ok definition => exact ⟨definition, told?_eq_some_iff.2 defined⟩

/-! ### The registry of units -/

/-- The walk through a tree is told when all nodes of the tree are. -/
theorem built_iff_trees (units : List SourceUnit) :
    Built units ↔ ∀ unit ∈ units, ∀ tree, unit.tree? = some tree →
      (tree.walk.all fun place => isTold place.node) = true := by
  simp only [Built, nodesOf, SourceUnit.found, List.mem_flatMap, List.all_eq_true]
  constructor
  · intro built unit member tree parsed place visited
    exact built place.node ⟨unit, member, by simpa [parsed] using ⟨place, visited, rfl⟩⟩
  · rintro told node ⟨unit, member, inTree⟩
    cases parsed : unit.tree? with
    | none => simp [parsed] at inTree
    | some tree =>
      obtain ⟨place, visited, rfl⟩ : ∃ place ∈ tree.walk, place.node = node := by
        simpa [parsed] using inTree
      exact told unit member tree parsed place visited

/-- The declarations of a tree are found when all of them are told. -/
theorem outcome_find (unit : SourceUnit) (root : Node) :
    (find unit root).outcome =
      if root.walk.all fun place => isTold place.node then
        .ok (root.walk.filterMap fun place => told? place.node)
      else .error .numberTooLong := by
  rw [find, declaredIn_eq]
  split
  · rw [Report.ofExcept_ok, Report.ok_andThen]
  · rfl

/-- **When the registry of units is built**: it is that of their declarations if all of them are
told, and otherwise there is none. -/
theorem outcome_collect (units : List SourceUnit) :
    (collect units).outcome =
      if Built units then .ok (inheritedRegistry (declaredBy units))
      else .error .numberTooLong := by
  split
  · next built =>
    have found : (SourceUnit.gather units find).outcome = .ok (declaredBy units) := by
      rw [declaredBy_eq_found]
      refine SourceUnit.outcome_gather fun unit member tree parsed => ?_
      rw [outcome_find, if_pos ((built_iff_trees units).1 built unit member tree parsed)]
    rw [collect, Report.outcome_andThen found]
    rfl
  · next notBuilt =>
    cases outcome : (SourceUnit.gather units find).outcome with
    | error fault =>
      cases fault
      rw [collect, Report.outcome_andThen_error outcome]
    | ok found =>
      -- A stage that ends well has told every tree.
      have succeeds := SourceUnit.succeeds_gather_iff.1 ⟨found, outcome⟩
      refine absurd ((built_iff_trees units).2 fun unit member tree parsed => ?_) notBuilt
      obtain ⟨definitions, told⟩ := succeeds unit member tree parsed
      rw [outcome_find] at told
      by_contra untold
      rw [if_neg untold] at told
      cases told

/-- If all declarations are told, the registry is built. -/
theorem outcome_collect_of_built {units : List SourceUnit} (built : Built units) :
    (collect units).outcome = .ok (inheritedRegistry (declaredBy units)) := by
  rw [outcome_collect, if_pos built]

/-- If the registry is built, all declarations are told. -/
theorem built_of_outcome_collect {units : List SourceUnit} {registry : Registry}
    (h : (collect units).outcome = .ok registry) :
    Built units ∧ inheritedRegistry (declaredBy units) = registry := by
  rw [outcome_collect] at h
  split at h
  · next built => exact ⟨built, Except.ok.inj h⟩
  · cases h

/-- If the declarations of two lists of units are told alike, then both have no registry, with
the same fault, or both have one, and what follows from building them holds of the two. -/
theorem outcomes_collect {units others : List SourceUnit} (alike : Built units ↔ Built others)
    {related : Registry → Registry → Prop}
    (relates : Built units →
      related (inheritedRegistry (declaredBy units)) (inheritedRegistry (declaredBy others))) :
    (∃ fault, (collect units).outcome = .error fault ∧ (collect others).outcome = .error fault) ∨
    ∃ registry other, (collect units).outcome = .ok registry ∧
      (collect others).outcome = .ok other ∧ related registry other := by
  by_cases built : Built units
  · exact .inr ⟨_, _, outcome_collect_of_built built, outcome_collect_of_built (alike.1 built),
      relates built⟩
  · refine .inl ⟨.numberTooLong, ?_, ?_⟩
    · rw [outcome_collect, if_neg built]
    · rw [outcome_collect, if_neg (alike.not.1 built)]

end Accord.Types
