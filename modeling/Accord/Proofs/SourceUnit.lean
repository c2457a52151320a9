import Accord.Calls
import Accord.Proofs.Report

/-!
# `Accord.Proofs.SourceUnit`: what is found in source units

A stage goes through units and gives what it finds in the trees of the units, one after the
other; a unit without a tree gives nothing. `outcome_gather` says so of a stage that fails for
none of the trees, and `succeeds_gather_iff` that a failure in one tree is a failure of the
whole. The extraction of calls never fails (`outcome_extract`). The collection of types may;
`Proofs.Types.Collect` is about it.

Units in another order give the same finds in another order (`found_perm`).
-/

set_option autoImplicit false

namespace Accord

open Script (Node)

namespace SourceUnit

variable {ε α : Type}

/-- What is found in the trees of units, unit by unit. -/
def found (units : List SourceUnit) (inTree : SourceUnit → Node → List α) : List α :=
  units.flatMap fun unit => (unit.tree?.map (inTree unit)).getD []

/-- Without units nothing is found. -/
theorem found_nil (inTree : SourceUnit → Node → List α) : found [] inTree = [] :=
  rfl

/-- What is found in a unit with a tree comes before what is found in the units behind it. -/
theorem found_cons {unit : SourceUnit} {tree : Node} (parsed : unit.tree? = some tree)
    (rest : List SourceUnit) (inTree : SourceUnit → Node → List α) :
    found (unit :: rest) inTree = inTree unit tree ++ found rest inTree := by
  rw [found, List.flatMap_cons, parsed]
  rfl

variable {stage : SourceUnit → Node → Report ε (List α)} {units : List SourceUnit}

/-- A stage that fails for no tree gives what it finds. -/
theorem outcome_gather {inTree : SourceUnit → Node → List α}
    (finds : ∀ unit ∈ units, ∀ tree, unit.tree? = some tree →
      (stage unit tree).outcome = .ok (inTree unit tree)) :
    (gather units stage).outcome = .ok (found units inTree) := by
  refine Report.outcome_gather fun unit member => ?_
  cases parsed : unit.tree? with
  | some tree => exact finds unit member tree parsed
  | none => rfl

/-- A stage goes through all units when it fails for none of their trees. -/
theorem succeeds_gather_iff :
    (gather units stage).Succeeds ↔
      ∀ unit ∈ units, ∀ tree, unit.tree? = some tree → (stage unit tree).Succeeds := by
  rw [gather, Report.succeeds_gather_iff]
  refine forall₂_congr fun unit _ => ?_
  cases unit.tree? with
  | some tree => simp
  | none => exact iff_of_true ⟨[], rfl⟩ (fun _ parsed => nomatch parsed)

/-- In another order the units hold the same. -/
theorem found_perm {units others : List SourceUnit} (perm : units.Perm others)
    (inTree : SourceUnit → Node → List α) : (found units inTree).Perm (found others inTree) :=
  perm.flatMap_right _

end SourceUnit

namespace Calls

/-- The endpoints that the trees of units call. -/
def calledBy (names : Names) (units : List SourceUnit) : List CodeEndpoint :=
  SourceUnit.found units fun unit tree => (sites names unit.path tree).filterMap Site.endpoint?

/-- What is extracted from units is what they call. -/
theorem outcome_extract {ε : Type} (names : Names) (units : List SourceUnit) :
    (extract names units : Report ε (List CodeEndpoint)).outcome = .ok (calledBy names units) :=
  SourceUnit.outcome_gather fun _ _ _ _ => rfl

end Calls

end Accord
