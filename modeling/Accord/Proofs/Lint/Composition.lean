import Accord.Proofs.Lint.Block

/-!
# `Accord.Proofs.Lint.Composition`: what comparisons of longer lists find

An endpoint of the contract is compared with its first match in the code, whatever else is in
the contract, and a call site appended to the code comes behind every match that is there
(`findMatch_append`). So the findings of a comparison can be put together from those of smaller
ones:

* a longer contract adds its own findings about bodies and about endpoints that the code lacks,
  and leaves of the call sites that the contract lacks those that both parts lack;
* a longer code leaves the matches that are there, takes endpoints off those that the code
  lacks, and adds its own call sites that the contract lacks.

`lint_composes` states this on the blocks of the findings.
-/

set_option autoImplicit false

namespace Accord.Lint

open Accord.Types (Registry)

/-! ### A longer contract -/

/-- The bodies of more endpoints are compared behind those of the first ones. -/
theorem bodyFindings_append (first second : List ContractEndpoint) (code : List CodeEndpoint)
    (registry : Registry) :
    bodyFindings (first ++ second) code registry =
      bodyFindings first code registry ++ bodyFindings second code registry :=
  List.flatMap_append

/-- The endpoints that the code lacks are found endpoint by endpoint. -/
theorem missingInCode_append (first second : List ContractEndpoint) (code : List CodeEndpoint) :
    missingInCode (first ++ second) code =
      missingInCode first code ++ missingInCode second code := by
  rw [missingInCode, List.filter_append, List.map_append]
  rfl

/-- The call sites that a longer contract lacks are those that both parts of it lack. -/
theorem uncovered_append (first second : List ContractEndpoint) (code : List CodeEndpoint)
    (registry : Registry) :
    uncovered (first ++ second) code =
      code.filter fun call => uncoveredFinding call ∈ lint first code registry ∧
        uncoveredFinding call ∈ lint second code registry := by
  refine List.filter_congr fun call inCode => ?_
  simp only [mem_lint_uncovered_iff inCode, List.forall_mem_append]

/-! ### A longer code -/

variable {endpoint : ContractEndpoint} {code : List CodeEndpoint}

/-- A match stays the first one when call sites are appended. -/
theorem findMatch_append {call : CodeEndpoint}
    (found : findMatch code endpoint.method endpoint.path = some call) (more : List CodeEndpoint) :
    findMatch (code ++ more) endpoint.method endpoint.path = some call := by
  rw [findMatch] at found ⊢
  rw [List.find?_append, found, Option.some_or]

/-- What is found about the bodies of an endpoint with a match stays. -/
theorem checkEndpoint_append (registry : Registry)
    (matched : ∃ call ∈ code, SameRoute endpoint call) (more : List CodeEndpoint) :
    checkEndpoint registry (code ++ more) endpoint = checkEndpoint registry code endpoint := by
  obtain ⟨call, first⟩ := exists_isFirstMatch_iff.2 matched
  have found := findMatch_eq_some_iff.2 first
  rw [checkEndpoint, checkEndpoint, findMatch_append found more, found]

/-- No endpoint is lacking in a longer code that was not before. -/
theorem missingInCode_sublist (contract : List ContractEndpoint) (code more : List CodeEndpoint) :
    (missingInCode contract (code ++ more)).Sublist (missingInCode contract code) := by
  rw [missingInCode_eq, missingInCode_eq]
  -- What meets no call site of the longer code meets none of the shorter one.
  refine List.Sublist.map _ (List.monotone_filter_right _ fun endpoint alone => ?_)
  rw [decide_eq_true_eq, List.forall_mem_append] at alone
  exact decide_eq_true alone.1

/-- The call sites that the contract lacks are found call by call. -/
theorem missingInContract_append (contract : List ContractEndpoint)
    (code more : List CodeEndpoint) :
    missingInContract contract (code ++ more) =
      missingInContract contract code ++ missingInContract contract more := by
  rw [missingInContract, List.filter_append, List.map_append]
  rfl

/-! ### The blocks of longer lists -/

/-- The body findings of a comparison are those of its endpoints, one after the other. -/
theorem blockOf_bodies_eq_flatMap (contract : List ContractEndpoint) (code : List CodeEndpoint)
    (registry : Registry) :
    blockOf .bodies (lint contract code registry) =
      contract.flatMap fun endpoint => blockOf .bodies (lint [endpoint] code registry) := by
  rw [blockOf_bodies_lint, bodyFindings]
  congr 1
  funext endpoint
  rw [blockOf_bodies_lint, bodyFindings, List.flatMap_singleton]

/-- **Comparisons compose**: the blocks for a longer contract, and those for a longer code, are made
of the blocks for its parts. -/
theorem lint_composes (registry : Registry) :
    -- The findings are their blocks, and those about bodies have a part for every endpoint.
    (∀ contract code,
      lint contract code registry =
        blockOf .bodies (lint contract code registry) ++
          blockOf .notInContract (lint contract code registry) ++
          blockOf .notInCode (lint contract code registry) ∧
      blockOf .bodies (lint contract code registry) =
        contract.flatMap fun endpoint => blockOf .bodies (lint [endpoint] code registry)) ∧
    -- A longer contract.
    (∀ first second code,
      blockOf .bodies (lint (first ++ second) code registry) =
        blockOf .bodies (lint first code registry) ++
          blockOf .bodies (lint second code registry) ∧
      blockOf .notInCode (lint (first ++ second) code registry) =
        blockOf .notInCode (lint first code registry) ++
          blockOf .notInCode (lint second code registry) ∧
      blockOf .notInContract (lint (first ++ second) code registry) =
        (code.filter fun call => uncoveredFinding call ∈ lint first code registry ∧
          uncoveredFinding call ∈ lint second code registry).map uncoveredFinding) ∧
    -- A longer code.
    ∀ contract code more,
      (∀ endpoint ∈ contract, (∃ call ∈ code, SameRoute endpoint call) →
        blockOf .bodies (lint [endpoint] (code ++ more) registry) =
          blockOf .bodies (lint [endpoint] code registry)) ∧
      (blockOf .notInCode (lint contract (code ++ more) registry)).Sublist
        (blockOf .notInCode (lint contract code registry)) ∧
      blockOf .notInContract (lint contract (code ++ more) registry) =
        blockOf .notInContract (lint contract code registry) ++
          blockOf .notInContract (lint contract more registry) := by
  refine ⟨fun contract code => ?blocks, fun first second code => ?contract,
    fun contract code more => ?code⟩
  case blocks =>
    exact ⟨lint_eq_append_blocks contract code registry,
      blockOf_bodies_eq_flatMap contract code registry⟩
  case contract =>
    simp only [blockOf_bodies_lint, blockOf_notInContract_lint, blockOf_notInCode_lint]
    refine ⟨bodyFindings_append first second code registry, missingInCode_append first second code,
      ?_⟩
    rw [missingInContract_eq, uncovered_append first second code registry]
  case code =>
    simp only [blockOf_bodies_lint, blockOf_notInContract_lint, blockOf_notInCode_lint]
    refine ⟨fun endpoint _ matched => ?_, missingInCode_sublist contract code more,
      missingInContract_append contract code more⟩
    rw [bodyFindings, bodyFindings, List.flatMap_singleton, List.flatMap_singleton,
      checkEndpoint_append registry matched more]

/-- An endpoint whose match stays, and with it what is found about its response. -/
theorem blockOf_bodies_users_append :
    let users : ContractEndpoint := ⟨"List", "GET", "users", .null, .array []⟩
    let call : CodeEndpoint := ⟨"GET", "/users/:id", none, none, "a.ts"⟩
    let later : CodeEndpoint := ⟨"GET", "users", none, some ⟨"User", .local, true⟩, "b.ts"⟩
    SameRoute users call ∧ SameRoute users later ∧
      blockOf .bodies (lint [users] ([call] ++ [later]) .empty) =
        blockOf .bodies (lint [users] [call] .empty) := by
  intro users call later
  have same : SameRoute users call := by decide +kernel
  exact ⟨same, by decide +kernel,
    ((lint_composes .empty).2.2 [users] [call] [later]).1 users List.mem_cons_self
      ⟨call, List.mem_cons_self, same⟩⟩

end Accord.Lint
