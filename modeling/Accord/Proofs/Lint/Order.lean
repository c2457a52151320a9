import Accord.Proofs.Lint.Block
import Accord.Proofs.Lint.Value
import Accord.Proofs.Script.Node
import Accord.Proofs.Script.Walk
import Accord.Proofs.Types.Order

/-!
# `Accord.Proofs.Lint.Order`: the order of the units does not matter

A comparison asks a registry what it holds under a name and nothing else, so two registries that
hold the same give the same findings (`lint_congr`). It asks the code for the first call site
with a method and a route. When no two call sites have both, there is only one to find, in
whatever order they stand; and the findings about call sites that the contract lacks come in the
order of the code.

`lint_of_units_in_any_order` says this of the units that the registry and the call sites come
from.
-/

set_option autoImplicit false

namespace Accord

open Script (Node)

/-! ### Registries that hold the same -/

namespace Types.Registry

variable {registry other : Registry}

/-- Two registries hold the same under every name. -/
def Agrees (registry other : Registry) : Prop :=
  ∀ name, registry.get? name = other.get? name

/-- Registries that agree resolve every name alike. -/
theorem Agrees.resolve (agrees : registry.Agrees other) (name : String) :
    registry.resolve name = other.resolve name :=
  agrees _

/-- Registries that agree answer alike whatever is asked about names. -/
theorem Agrees.answersAlike (agrees : registry.Agrees other) : registry.AnswersAlike other where
  contains := fun name => by rw [Bool.eq_iff_iff, contains_iff, contains_iff, agrees name]
  enumValues? := fun name => by rw [Registry.enumValues?, Registry.enumValues?, agrees name]
  resolves := fun name => by rw [agrees.resolve name]

end Types.Registry

/-- The method and the route of a call site. -/
def CodeEndpoint.route (call : CodeEndpoint) : String × String :=
  (call.method, Route.normalize call.path)

namespace Lint

open Accord.Types (Registry)

section Registries

variable {registry other : Registry}

/-- A body is judged alike under registries that agree. -/
theorem checkBody_congr (agrees : registry.Agrees other) (endpoint : String) (side : Side)
    (body : Json) (reference : Option TypeReference) :
    checkBody endpoint side body reference registry =
      checkBody endpoint side body reference other := by
  have property : checkProperty endpoint side registry = checkProperty endpoint side other := by
    funext sample property
    simp only [checkProperty, checkValue_congr agrees.answersAlike]
  simp only [checkBody, checkSample, checkValues, agrees.resolve, property]

/-- Registries that hold the same give the same findings. -/
theorem lint_congr (agrees : registry.Agrees other) (contract : List ContractEndpoint)
    (code : List CodeEndpoint) : lint contract code registry = lint contract code other := by
  have endpoint : checkEndpoint registry code = checkEndpoint other code := by
    funext endpoint
    simp only [checkEndpoint, checkMatched, checkBody_congr agrees]
  rw [lint, lint, bodyFindings, bodyFindings, endpoint]

end Registries

/-! ### Call sites with distinct routes -/

section Routes

variable {code other : List CodeEndpoint}

/-- `meets` compares routes. -/
theorem meets_eq (method path : String) :
    meets method path = fun call => decide (call.route = (method, Route.normalize path)) := by
  funext call
  simp [meets, CodeEndpoint.route, beq_eq_decide]

/-- Among call sites with distinct routes the order has no part in what an endpoint meets. -/
theorem findMatch_of_perm (perm : code.Perm other)
    (distinct : (code.map CodeEndpoint.route).Nodup) (method path : String) :
    findMatch code method path = findMatch other method path := by
  rw [findMatch, findMatch, meets_eq]
  exact find?_key_of_perm perm distinct _

/-- With distinct routes every endpoint has the same match in any order, and so the same findings.
-/
theorem bodyFindings_of_perm (perm : code.Perm other)
    (distinct : (code.map CodeEndpoint.route).Nodup) (contract : List ContractEndpoint)
    (registry : Registry) :
    bodyFindings contract code registry = bodyFindings contract other registry := by
  have endpoint : checkEndpoint registry code = checkEndpoint registry other := by
    funext endpoint
    rw [checkEndpoint, checkEndpoint, findMatch_of_perm perm distinct]
  rw [bodyFindings, bodyFindings, endpoint]

/-- With distinct routes the same endpoints lack a call site in any order. -/
theorem missingInCode_of_perm (perm : code.Perm other)
    (distinct : (code.map CodeEndpoint.route).Nodup) (contract : List ContractEndpoint) :
    missingInCode contract code = missingInCode contract other := by
  simp only [missingInCode, findMatch_of_perm perm distinct]

/-- Call sites that the contract lacks are found one by one, so they may come in any order. -/
theorem missingInContract_perm (perm : code.Perm other) (contract : List ContractEndpoint) :
    (missingInContract contract code).Perm (missingInContract contract other) :=
  (perm.filter _).map _

end Routes

/-! ### The findings by kind -/

/-- A finding about a call site that the contract lacks. -/
def Finding.IsNotInContract (finding : Finding) : Prop :=
  finding.kind = .endpointMissingInContract

/-- Whether a finding is about the contract is read off its kind. -/
instance : DecidablePred Finding.IsNotInContract :=
  fun finding => inferInstanceAs (Decidable (finding.kind = _))

/-- The findings about call sites that the contract lacks are the second block. -/
theorem isNotInContract_iff (finding : Finding) :
    finding.IsNotInContract ↔ finding.kind.block = .notInContract := by
  rw [Finding.IsNotInContract]
  cases finding.kind <;> simp [Kind.block]

/-- The findings about call sites that the contract lacks are the middle block. -/
theorem filter_isNotInContract (contract : List ContractEndpoint) (code : List CodeEndpoint)
    (registry : Registry) :
    (lint contract code registry).filter Finding.IsNotInContract =
      missingInContract contract code := by
  rw [← blockOf_notInContract_lint contract code registry, blockOf]
  exact List.filter_congr fun finding _ => by simp only [isNotInContract_iff]

/-- Findings of any other block are no findings about call sites. -/
theorem filter_not_isNotInContract_of_block {findings : List Finding} {block : Block}
    (within : ∀ finding ∈ findings, finding.kind.block = block) (other : block ≠ .notInContract) :
    findings.filter (fun finding => ¬finding.IsNotInContract) = findings :=
  List.filter_eq_self.2 fun finding member => by
    simpa [isNotInContract_iff, within finding member] using other

/-- The other findings are the first block and the last one. -/
theorem filter_not_isNotInContract (contract : List ContractEndpoint) (code : List CodeEndpoint)
    (registry : Registry) :
    (lint contract code registry).filter (fun finding => ¬finding.IsNotInContract) =
      bodyFindings contract code registry ++ missingInCode contract code := by
  have calls : (missingInContract contract code).filter
      (fun finding => ¬finding.IsNotInContract) = [] :=
    List.filter_eq_nil_iff.2 fun finding member => by
      simpa [isNotInContract_iff] using block_of_mem_missingInContract member
  rw [lint, List.filter_append, List.filter_append, calls, List.append_nil,
    filter_not_isNotInContract_of_block (fun _ => block_of_mem_bodyFindings) (by decide),
    filter_not_isNotInContract_of_block (fun _ => block_of_mem_missingInCode) (by decide)]

/-! ### Units in another order -/

/-- **The order of the units does not matter.** Type units that declare every name once give the
same findings in any order, whatever extends what, or no registry in any order. Units whose calls
have distinct routes give the same findings about bodies and about endpoints that the code lacks, in
the same order; the findings about call sites that the contract lacks come in the order of the call
sites. -/
theorem lint_of_units_in_any_order {ε : Type} :
    (∀ units others : List SourceUnit, units.Perm others →
      (Types.declaredNames units).Nodup →
      (∃ fault, (Types.collect units).outcome = .error fault ∧
        (Types.collect others).outcome = .error fault) ∨
      ∃ registry other,
        (Types.collect units).outcome = .ok registry ∧
        (Types.collect others).outcome = .ok other ∧
        ∀ contract code, lint contract code registry = lint contract code other) ∧
    ∀ (names : Calls.Names) (units others : List SourceUnit), units.Perm others →
      ∃ code other,
        (Calls.extract names units : Report ε (List CodeEndpoint)).outcome = .ok code ∧
        (Calls.extract names others : Report ε (List CodeEndpoint)).outcome = .ok other ∧
        ((code.map CodeEndpoint.route).Nodup → ∀ contract registry,
          (lint contract code registry).filter (fun finding => ¬finding.IsNotInContract) =
            (lint contract other registry).filter (fun finding => ¬finding.IsNotInContract) ∧
          ((lint contract code registry).filter Finding.IsNotInContract).Perm
            ((lint contract other registry).filter Finding.IsNotInContract)) := by
  refine ⟨fun units others perm distinct => ?types, fun names units others perm => ?calls⟩
  case types =>
    -- The order of the units has no part in whether their declarations are told.
    have alike : Types.Built units ↔ Types.Built others :=
      ⟨Types.built_of_perm perm, Types.built_of_perm perm.symm⟩
    exact Types.outcomes_collect alike fun built =>
      lint_congr (Types.get?_inheritedRegistry_of_perm perm built distinct)
  case calls =>
    refine ⟨_, _, Calls.outcome_extract names units, Calls.outcome_extract names others, ?_⟩
    intro distinct contract registry
    -- The call sites come in the order of the units, and that is all that changes.
    have called : (Calls.calledBy names units).Perm (Calls.calledBy names others) :=
      SourceUnit.found_perm perm _
    constructor
    · rw [filter_not_isNotInContract, filter_not_isNotInContract,
        bodyFindings_of_perm called distinct, missingInCode_of_perm called distinct]
    · rw [filter_isNotInContract, filter_isNotInContract]
      exact missingInContract_perm called contract

/-- The tree of a unit that declares an interface with one base and one property. -/
def extendingTree (name base property type : String) : Node :=
  .mk .program none "" ""
    [.interface "" name [.extending base] [.property property (.leaf .predefinedType " " type)]]

/-- A unit whose interface extends that of `orderUnit`. -/
def customerUnit : SourceUnit :=
  ⟨"customer.ts", "interface Customer extends Order { id: string }"⟩

/-- A unit whose interface extends that of `customerUnit`. -/
def orderUnit : SourceUnit :=
  ⟨"order.ts", "interface Order extends Customer { price: number }"⟩

/-- The tree of a unit with one call. -/
def callTree (url : String) : Node :=
  .mk .program none "" ""
    [.mk .expressionStatement none "" ""
      [.mk .callExpression none "" ""
        [.mk .identifier (some .function) "" "fetch" [],
          .mk .arguments (some .arguments) "" ""
            [.leaf .token "" "(", .leaf .string "" url, .leaf .token "" ")"]]]]

/-- A unit with one call. -/
def customersUnit : SourceUnit :=
  ⟨"customers.ts", "fetch('/customers')"⟩

/-- A unit with a call on another route. -/
def ordersUnit : SourceUnit :=
  ⟨"orders.ts", "fetch('/orders')"⟩

/-- The units may be read in either order. -/
theorem lint_of_units_swapped :
    (∃ registry other,
      (Types.collect [customerUnit, orderUnit]).outcome = .ok registry ∧
      (Types.collect [orderUnit, customerUnit]).outcome = .ok other ∧
      ∀ contract code, lint contract code registry = lint contract code other) ∧
    ∃ code other,
      (Calls.extract .standard [customersUnit, ordersUnit] :
        Report Empty (List CodeEndpoint)).outcome = .ok code ∧
      (Calls.extract .standard [ordersUnit, customersUnit] :
        Report Empty (List CodeEndpoint)).outcome = .ok other ∧
      ((lint [] code .empty).filter Finding.IsNotInContract).Perm
        ((lint [] other .empty).filter Finding.IsNotInContract) := by
  have customer : customerUnit.tree? =
      some (extendingTree "Customer" "Order" "id" "string") := by decide +kernel
  have order : orderUnit.tree? =
      some (extendingTree "Order" "Customer" "price" "number") := by decide +kernel
  have customers : customersUnit.tree? = some (callTree "'/customers'") := by decide +kernel
  have orders : ordersUnit.tree? = some (callTree "'/orders'") := by decide +kernel
  have nodes : Types.nodesOf [customerUnit, orderUnit] =
      ((extendingTree "Customer" "Order" "id" "string").places []).map Script.Place.node ++
        ((extendingTree "Order" "Customer" "price" "number").places []).map Script.Place.node := by
    rw [Types.nodesOf, SourceUnit.found_cons customer, SourceUnit.found_cons order,
      SourceUnit.found_nil, List.append_nil, Node.walk_eq_places, Node.walk_eq_places]
  have distinct : (Types.declaredNames [customerUnit, orderUnit]).Nodup := by
    rw [Types.declaredNames, Types.declarations, nodes]
    decide +kernel
  have built : Types.Built [customerUnit, orderUnit] := by
    rw [Types.Built, nodes]
    decide +kernel
  have routes : (Calls.calledBy .standard [customersUnit, ordersUnit]).map CodeEndpoint.route =
      [("GET", "customers"), ("GET", "orders")] := by
    rw [Calls.calledBy, SourceUnit.found_cons customers, SourceUnit.found_cons orders,
      SourceUnit.found_nil, Calls.sites, Calls.sites, Node.walk_eq_places, Node.walk_eq_places]
    decide +kernel
  obtain ⟨types, calls⟩ := @lint_of_units_in_any_order Empty
  refine ⟨?_, ?_⟩
  · rcases types _ _ (List.Perm.swap _ _ _) distinct with ⟨fault, failed, -⟩ | both
    · rw [Types.outcome_collect_of_built built] at failed
      cases failed
    · exact both
  obtain ⟨code, other, extracted, swapped, same⟩ := calls .standard
    [customersUnit, ordersUnit] [ordersUnit, customersUnit] (List.Perm.swap _ _ _)
  have called : code = Calls.calledBy .standard [customersUnit, ordersUnit] :=
    Except.ok.inj (extracted.symm.trans (Calls.outcome_extract _ _))
  rw [← called] at routes
  exact ⟨code, other, extracted, swapped, (same (by rw [routes]; decide) [] .empty).2⟩

end Lint

end Accord
