import Accord.Proofs.Aligned
import Accord.Proofs.Lint.Block
import Accord.Proofs.Route.Canonical

/-!
# `Accord.Proofs.Lint.Respelling`: paths count up to their normal form

A path can be spelled in several ways that have one normal form (`ContractEndpoint.Respells`,
`CodeEndpoint.Respells`). Two entries meet under every spelling of their paths or under none
(`sameRoute_congr`), and so with two lists of entries that are the same up to spelling

* every endpoint of the contract has its first match at the same place, and the findings about
  bodies, which quote no path, are the same;
* the same entries are missing on either side, and the findings about them quote what is
  written.

`lint_respelled` states this place by place. Replacing every path by its normal form is one case
of it.
-/

set_option autoImplicit false

namespace Accord

/-- An endpoint of the contract with its path spelled in another way. -/
structure ContractEndpoint.Respells (endpoint other : ContractEndpoint) : Prop where
  rest : other = { endpoint with path := other.path }
  route : Route.normalize other.path = Route.normalize endpoint.path

/-- A call site with its path spelled in another way. -/
structure CodeEndpoint.Respells (call other : CodeEndpoint) : Prop where
  rest : other = { call with path := other.path }
  route : Route.normalize other.path = Route.normalize call.path

/-- An endpoint of the contract with the normal form of its path. -/
def ContractEndpoint.normalized (endpoint : ContractEndpoint) : ContractEndpoint :=
  { endpoint with path := Route.normalize endpoint.path }

/-- A call site with the normal form of its path. -/
def CodeEndpoint.normalized (call : CodeEndpoint) : CodeEndpoint :=
  { call with path := Route.normalize call.path }

/-- An endpoint is a respelling of the one with its path in normal form. -/
theorem ContractEndpoint.respells_normalized (endpoint : ContractEndpoint) :
    endpoint.Respells endpoint.normalized :=
  ⟨rfl, Route.normalize_normalize endpoint.path⟩

/-- So is a call site. -/
theorem CodeEndpoint.respells_normalized (call : CodeEndpoint) : call.Respells call.normalized :=
  ⟨rfl, Route.normalize_normalize call.path⟩

namespace Lint

open Accord.Types (Registry)

/-- Two texts that differ at most in the path that they quote. -/
def DifferInPath (path otherPath text otherText : String) : Prop :=
  ∃ before after, text = before ++ path ++ after ∧ otherText = before ++ otherPath ++ after

/-- Two findings about one thing, with the paths spelled in two ways. `endpoints` and `calls`
are the entries of the two sides, each with its other spelling. -/
structure Retold (endpoints : List (ContractEndpoint × ContractEndpoint))
    (calls : List (CodeEndpoint × CodeEndpoint)) (finding other : Finding) : Prop where
  kind : other.kind = finding.kind
  mismatch : other.mismatch = finding.mismatch
  bodies : finding.kind.block = .bodies → other = finding
  notInContract : finding.kind.block = .notInContract →
    ∃ call respelled, (call, respelled) ∈ calls ∧
      finding = uncoveredFinding call ∧ other = uncoveredFinding respelled ∧
      DifferInPath call.path respelled.path finding.endpoint other.endpoint ∧
      DifferInPath call.path respelled.path finding.message other.message
  notInCode : finding.kind.block = .notInCode →
    ∃ endpoint respelled, (endpoint, respelled) ∈ endpoints ∧
      finding = uncalledFinding endpoint ∧ other = uncalledFinding respelled ∧
      other.endpoint = finding.endpoint ∧
      DifferInPath endpoint.path respelled.path finding.message other.message

/-! ### Single entries -/

section Entries

variable {endpoint endpoint' : ContractEndpoint} {call call' : CodeEndpoint}

/-- Entries meet under every spelling of their paths. -/
theorem sameRoute_congr (endpoints : endpoint.Respells endpoint') (calls : call.Respells call') :
    SameRoute endpoint call ↔ SameRoute endpoint' call' := by
  rw [SameRoute, SameRoute, endpoints.route, calls.route, endpoints.rest, calls.rest]

/-- What is found about a matched pair does not look at the paths. -/
theorem checkMatched_congr (endpoints : endpoint.Respells endpoint') (calls : call.Respells call')
    (registry : Registry) :
    checkMatched registry endpoint call = checkMatched registry endpoint' call' := by
  rw [endpoints.rest, calls.rest]
  rfl

/-- The finding about a missing call site quotes the path at its end. -/
theorem retold_uncovered {endpoints : List (ContractEndpoint × ContractEndpoint)}
    {calls : List (CodeEndpoint × CodeEndpoint)} (respells : call.Respells call')
    (paired : (call, call') ∈ calls) :
    Retold endpoints calls (uncoveredFinding call) (uncoveredFinding call') where
  kind := rfl
  mismatch := rfl
  bodies := fun block => nomatch block
  notInContract := fun _ => by
    -- Name and message quote the path at their end, behind these words.
    refine ⟨call, call', paired, rfl, rfl, ⟨call.method ++ " ", "", ?_⟩,
      ⟨"Endpoint found in code but not defined in contract: " ++ call.method ++ " ", "", ?_⟩⟩
    all_goals
      rw [respells.rest]
      simp [uncoveredFinding, Finding.message, toString]
  notInCode := fun block => nomatch block

/-- The finding about a missing endpoint quotes the path before the shapes of the bodies. -/
theorem retold_uncalled {endpoints : List (ContractEndpoint × ContractEndpoint)}
    {calls : List (CodeEndpoint × CodeEndpoint)} (respells : endpoint.Respells endpoint')
    (paired : (endpoint, endpoint') ∈ endpoints) :
    Retold endpoints calls (uncalledFinding endpoint) (uncalledFinding endpoint') where
  kind := rfl
  mismatch := rfl
  bodies := fun block => nomatch block
  notInContract := fun block => nomatch block
  notInCode := fun _ => by
    -- The message quotes the path between these words and the shapes of the bodies.
    refine ⟨endpoint, endpoint', paired, rfl, rfl, ?_,
      ⟨"Endpoint defined in contract but not found in code: " ++ endpoint.method ++ " ",
        Finding.shapeClause " with expected request body" endpoint.requestBody.shape ++
          Finding.shapeClause " and expected response body" endpoint.responseBody.shape, ?_⟩⟩
    all_goals
      rw [respells.rest]
      simp [uncalledFinding, Finding.message, toString, String.append_assoc]

end Entries

/-! ### Lists of entries -/

section Lists

variable {contract contract' : List ContractEndpoint} {code code' : List CodeEndpoint}

/-- The first match of an endpoint is at the same place. -/
theorem findMatch_congr {endpoint endpoint' : ContractEndpoint}
    (endpoints : endpoint.Respells endpoint') (calls : code.Forall₂ CodeEndpoint.Respells code') :
    Option.Rel CodeEndpoint.Respells (findMatch code endpoint.method endpoint.path)
      (findMatch code' endpoint'.method endpoint'.path) := by
  refine rel_find? (fun call call' respells => ?_) calls
  rw [meets_iff, meets_iff]
  exact sameRoute_congr endpoints respells

/-- Body findings quote no path. -/
theorem checkEndpoint_congr {endpoint endpoint' : ContractEndpoint}
    (endpoints : endpoint.Respells endpoint') (calls : code.Forall₂ CodeEndpoint.Respells code')
    (registry : Registry) :
    checkEndpoint registry code endpoint = checkEndpoint registry code' endpoint' := by
  have found := findMatch_congr endpoints calls
  rw [checkEndpoint, checkEndpoint]
  generalize findMatch code endpoint.method endpoint.path = first at found
  generalize findMatch code' endpoint'.method endpoint'.path = first' at found
  cases found with
  | none => rfl
  | some respells => exact checkMatched_congr endpoints respells registry

/-- Respelled endpoints and call sites have the same findings about bodies, endpoint by endpoint. -/
theorem bodyFindings_congr (endpoints : contract.Forall₂ ContractEndpoint.Respells contract')
    (calls : code.Forall₂ CodeEndpoint.Respells code') (registry : Registry) :
    bodyFindings contract code registry = bodyFindings contract' code' registry := by
  have parts : contract.map (checkEndpoint registry code) =
      contract'.map (checkEndpoint registry code') :=
    map_eq_map_of_forall₂ (fun _ _ respells => checkEndpoint_congr respells calls registry)
      endpoints
  rw [bodyFindings, bodyFindings, List.flatMap_def, List.flatMap_def, parts]

/-- The same call sites are missing, and what is found about them is told with the other
spelling. -/
theorem retold_missingInContract
    (endpoints : contract.Forall₂ ContractEndpoint.Respells contract')
    (calls : code.Forall₂ CodeEndpoint.Respells code') :
    List.Forall₂ (Retold (contract.zip contract') (code.zip code'))
      (missingInContract contract code) (missingInContract contract' code') := by
  rw [missingInContract_eq, missingInContract_eq]
  -- The pairing with the place in both lists is kept along, for `Retold` asks for it.
  refine List.rel_map (fun call call' both => retold_uncovered both.1 both.2)
    (List.rel_filter (fun call call' both => ?_) (forall₂_and_mem_zip calls))
  have alike := forall_mem_iff_of_forall₂
    (fun _ _ respells => not_congr (sameRoute_congr respells both.1)) endpoints
  exact decide_eq_true_iff.trans (alike.trans decide_eq_true_iff.symm)

/-- Likewise for the endpoints that the code lacks. -/
theorem retold_missingInCode
    (endpoints : contract.Forall₂ ContractEndpoint.Respells contract')
    (calls : code.Forall₂ CodeEndpoint.Respells code') :
    List.Forall₂ (Retold (contract.zip contract') (code.zip code'))
      (missingInCode contract code) (missingInCode contract' code') := by
  rw [missingInCode_eq, missingInCode_eq]
  refine List.rel_map (fun endpoint endpoint' both => retold_uncalled both.1 both.2)
    (List.rel_filter (fun endpoint endpoint' both => ?_) (forall₂_and_mem_zip endpoints))
  have alike := forall_mem_iff_of_forall₂
    (fun _ _ respells => not_congr (sameRoute_congr both.1 respells)) calls
  exact decide_eq_true_iff.trans (alike.trans decide_eq_true_iff.symm)

/-- A finding about a body is told in one way only. -/
theorem retold_self {endpoints : List (ContractEndpoint × ContractEndpoint)}
    {calls : List (CodeEndpoint × CodeEndpoint)} {finding : Finding}
    (body : finding.kind.block = .bodies) : Retold endpoints calls finding finding where
  kind := rfl
  mismatch := rfl
  bodies := fun _ => rfl
  notInContract := fun block => absurd (body.symm.trans block) Block.noConfusion
  notInCode := fun block => absurd (body.symm.trans block) Block.noConfusion

/-- The findings under two spellings of the paths agree place by place. -/
theorem retold_lint (endpoints : contract.Forall₂ ContractEndpoint.Respells contract')
    (calls : code.Forall₂ CodeEndpoint.Respells code') (registry : Registry) :
    List.Forall₂ (Retold (contract.zip contract') (code.zip code'))
      (lint contract code registry) (lint contract' code' registry) := by
  have bodies : List.Forall₂ (Retold (contract.zip contract') (code.zip code'))
      (bodyFindings contract code registry) (bodyFindings contract' code' registry) := by
    rw [← bodyFindings_congr endpoints calls registry, List.forall₂_same]
    exact fun finding member => retold_self (block_of_mem_bodyFindings member)
  exact List.rel_append (List.rel_append bodies (retold_missingInContract endpoints calls))
    (retold_missingInCode endpoints calls)

end Lists

/-! ### Comparisons -/

/-- **Paths count up to their normal form**: with other spellings of any paths a comparison
finds the same place by place. In particular every verdict is that on the normal forms. -/
theorem lint_respelled {contract contract' : List ContractEndpoint} {code code' : List CodeEndpoint}
    (endpoints : contract.Forall₂ ContractEndpoint.Respells contract')
    (calls : code.Forall₂ CodeEndpoint.Respells code') (registry : Registry) :
    List.Forall₂ (Retold (contract.zip contract') (code.zip code'))
      (lint contract code registry) (lint contract' code' registry) ∧
    List.Forall₂
      (fun finding other => other.kind = finding.kind ∧ other.mismatch = finding.mismatch)
      (lint contract code registry)
      (lint (contract.map .normalized) (code.map .normalized) registry) := by
  refine ⟨retold_lint endpoints calls registry, ?_⟩
  -- To write every path in normal form is one of the other spellings.
  have endpoints' : contract.Forall₂ ContractEndpoint.Respells (contract.map .normalized) := by
    rw [List.forall₂_map_right_iff, List.forall₂_same]
    exact fun endpoint _ => endpoint.respells_normalized
  have calls' : code.Forall₂ CodeEndpoint.Respells (code.map .normalized) := by
    rw [List.forall₂_map_right_iff, List.forall₂_same]
    exact fun call _ => call.respells_normalized
  exact (retold_lint endpoints' calls' registry).imp fun _ _ told => ⟨told.kind, told.mismatch⟩

/-- A call of a route with parameters, and the endpoints that it does and does not meet, under other
spellings. -/
theorem retold_users :
    let users : ContractEndpoint := ⟨"List", "GET", "/users/", .null, .null⟩
    let posts : ContractEndpoint := ⟨"Add", "POST", "posts", .null, .null⟩
    let call : CodeEndpoint := ⟨"GET", "users/:id", none, none, "a.ts"⟩
    let stray : CodeEndpoint := ⟨"GET", "tags/", none, none, "a.ts"⟩
    let contract' := [{ users with path := "users" }, { posts with path := "//posts/:id" }]
    let code' := [{ call with path := "users/:name/" }, { stray with path := "tags" }]
    List.Forall₂ (Retold ([users, posts].zip contract') ([call, stray].zip code'))
      (lint [users, posts] [call, stray] .empty) (lint contract' code' .empty) :=
  (lint_respelled
    (.cons ⟨rfl, by decide +kernel⟩ (.cons ⟨rfl, by decide +kernel⟩ .nil))
    (.cons ⟨rfl, by decide +kernel⟩ (.cons ⟨rfl, by decide +kernel⟩ .nil)) .empty).1

end Lint

end Accord
