import Accord.Lint
import Accord.Proofs.Lint.Body
import Mathlib.Data.List.Forall2

/-!
# `Accord.Proofs.Lint.Coverage`: every endpoint is accounted for once

The two sides of a comparison are searched by different means: for an endpoint of the contract
the first call site that it meets, for a call site whether any endpoint covers it. `SameRoute`
is the one relation behind both, and `findMatch_eq_some_iff`, `findMatch_eq_none_iff` and
`any_covers_iff` say what the searches decide about it.

`lint_accounts_for_endpoints` reads the findings of a comparison as three blocks. The first one
has a part for every contract endpoint, in order, which is empty or compares the endpoint with
its first match. The other two have one finding for every entry that meets none on the other
side.
-/

set_option autoImplicit false

namespace Accord.Lint

variable {contract : List ContractEndpoint} {code : List CodeEndpoint}
  {endpoint : ContractEndpoint} {call : CodeEndpoint}

/-! ### Endpoints that meet -/

/-- An endpoint of the contract and a call site have one method, and paths with one normal form. -/
def SameRoute (endpoint : ContractEndpoint) (call : CodeEndpoint) : Prop :=
  call.method = endpoint.method ∧ Route.normalize call.path = Route.normalize endpoint.path

/-- Meeting is decided by comparing the methods and the normal forms of the paths. -/
instance (endpoint : ContractEndpoint) (call : CodeEndpoint) :
    Decidable (SameRoute endpoint call) :=
  inferInstanceAs (Decidable (_ ∧ _))

/-- The first call site in the order of the code that an endpoint meets. -/
def IsFirstMatch (code : List CodeEndpoint) (endpoint : ContractEndpoint) (call : CodeEndpoint) :
    Prop :=
  ∃ before after, code = before ++ call :: after ∧ SameRoute endpoint call ∧
    ∀ earlier ∈ before, ¬SameRoute endpoint earlier

/-- `meets` decides whether an endpoint and a call site have the same route. -/
theorem meets_iff :
    meets endpoint.method endpoint.path call = true ↔ SameRoute endpoint call := by
  simp [meets, SameRoute]

/-- The search among the call sites finds the first match. -/
theorem findMatch_eq_some_iff :
    findMatch code endpoint.method endpoint.path = some call ↔ IsFirstMatch code endpoint call := by
  unfold findMatch
  rw [List.find?_eq_some_iff_append, meets_iff]
  constructor
  · rintro ⟨same, before, after, split, others⟩
    refine ⟨before, after, split, same, fun earlier member => ?_⟩
    rw [← meets_iff]
    simpa using others earlier member
  · rintro ⟨before, after, split, same, others⟩
    refine ⟨same, before, after, split, fun earlier member => ?_⟩
    have other := others earlier member
    rw [← meets_iff] at other
    simpa using other

/-- The search among the call sites fails when the endpoint meets none. -/
theorem findMatch_eq_none_iff :
    findMatch code endpoint.method endpoint.path = none ↔
      ∀ call ∈ code, ¬SameRoute endpoint call := by
  unfold findMatch
  rw [List.find?_eq_none]
  simp only [meets_iff]

/-- The search among the endpoints of the contract asks for the same relation. -/
theorem any_covers_iff :
    contract.any (covers call) = true ↔ ∃ endpoint ∈ contract, SameRoute endpoint call := by
  simp only [List.any_eq_true, covers, meets_iff]

/-- A single call is the first match of the endpoints that meet it. -/
theorem isFirstMatch_singleton (same : SameRoute endpoint call) :
    IsFirstMatch [call] endpoint call :=
  ⟨[], [], rfl, same, fun _ member => nomatch member⟩

/-- The first match is among the call sites. -/
theorem IsFirstMatch.mem (h : IsFirstMatch code endpoint call) : call ∈ code := by
  obtain ⟨before, after, rfl, _⟩ := h
  simp

/-- The first match has the route of the endpoint. -/
theorem IsFirstMatch.sameRoute (h : IsFirstMatch code endpoint call) : SameRoute endpoint call := by
  obtain ⟨_, _, _, same, _⟩ := h
  exact same

/-- An endpoint that meets some call site has a first match. -/
theorem exists_isFirstMatch_iff :
    (∃ call, IsFirstMatch code endpoint call) ↔ ∃ call ∈ code, SameRoute endpoint call := by
  constructor
  · rintro ⟨call, first⟩
    exact ⟨call, first.mem, first.sameRoute⟩
  · rintro ⟨call, member, same⟩
    cases found : findMatch code endpoint.method endpoint.path with
    | none => exact absurd same (findMatch_eq_none_iff.1 found call member)
    | some first => exact ⟨first, findMatch_eq_some_iff.1 found⟩

/-! ### The three blocks -/

/-- What is found about the bodies of an endpoint: nothing without a match; with one, what is found
about the request and then what is found about the response. -/
inductive Compares (code : List CodeEndpoint) (registry : Types.Registry)
    (endpoint : ContractEndpoint) : List Finding → Prop where
  | matched {call : CodeEndpoint} : IsFirstMatch code endpoint call →
      Compares code registry endpoint
        (checkBody endpoint.name .request endpoint.requestBody call.requestBody registry ++
          checkBody endpoint.name .response endpoint.responseBody call.responseBody registry)
  | unmatched : (∀ call ∈ code, ¬SameRoute endpoint call) → Compares code registry endpoint []

/-- An endpoint is compared with its first match, if it has one. -/
theorem compares_checkEndpoint (code : List CodeEndpoint) (registry : Types.Registry)
    (endpoint : ContractEndpoint) :
    Compares code registry endpoint (checkEndpoint registry code endpoint) := by
  unfold checkEndpoint
  split
  · next missing => exact .unmatched (findMatch_eq_none_iff.1 missing)
  · next found => exact .matched (findMatch_eq_some_iff.1 found)

/-- A finding about a body is about an endpoint with a match. -/
theorem isAbout_of_mem_compares {registry : Types.Registry} {findings : List Finding}
    {finding : Finding} (h : Compares code registry endpoint findings)
    (member : finding ∈ findings) :
    (∃ call, IsFirstMatch code endpoint call) ∧ ∃ side, finding.IsAbout endpoint.name side := by
  cases h with
  | matched first =>
    refine ⟨⟨_, first⟩, ?_⟩
    rcases List.mem_append.1 member with request | response
    · exact ⟨.request, isAbout_of_mem_checkBody request⟩
    · exact ⟨.response, isAbout_of_mem_checkBody response⟩
  | unmatched _ => cases member

/-- The call sites that no endpoint of the contract meets, in order and with repetitions. -/
def uncovered (contract : List ContractEndpoint) (code : List CodeEndpoint) : List CodeEndpoint :=
  code.filter fun call => ∀ endpoint ∈ contract, ¬SameRoute endpoint call

/-- The endpoints that meet no call site, in order and with repetitions. -/
def uncalled (contract : List ContractEndpoint) (code : List CodeEndpoint) :
    List ContractEndpoint :=
  contract.filter fun endpoint => ∀ call ∈ code, ¬SameRoute endpoint call

/-- The finding about a call site that the contract lacks. -/
def uncoveredFinding (call : CodeEndpoint) : Finding :=
  ⟨s!"{call.method} {call.path}", .notInContract call.method call.path⟩

/-- The finding about an endpoint that the code lacks. -/
def uncalledFinding (endpoint : ContractEndpoint) : Finding :=
  ⟨endpoint.name,
    .notInCode endpoint.method endpoint.path endpoint.requestBody.shape
      endpoint.responseBody.shape⟩

/-- What the contract lacks is each uncovered call site, in the order of the code. -/
theorem missingInContract_eq (contract : List ContractEndpoint) (code : List CodeEndpoint) :
    missingInContract contract code = (uncovered contract code).map uncoveredFinding := by
  unfold missingInContract uncovered
  congr 2
  funext call
  rw [Bool.eq_iff_iff, Bool.not_eq_true', ← Bool.not_eq_true, any_covers_iff]
  simp

/-- What the code lacks is each uncalled endpoint, in the order of the contract. -/
theorem missingInCode_eq (contract : List ContractEndpoint) (code : List CodeEndpoint) :
    missingInCode contract code = (uncalled contract code).map uncalledFinding := by
  unfold missingInCode uncalled
  congr 2
  funext endpoint
  rw [Bool.eq_iff_iff, Option.isNone_iff_eq_none, findMatch_eq_none_iff]
  simp

/-- The body findings are those of the endpoints, one after the other. -/
theorem compares_bodyFindings (contract : List ContractEndpoint) (code : List CodeEndpoint)
    (registry : Types.Registry) :
    List.Forall₂ (Compares code registry) contract
      (contract.map (checkEndpoint registry code)) := by
  rw [List.forall₂_map_right_iff, List.forall₂_same]
  exact fun endpoint _ => compares_checkEndpoint code registry endpoint

/-- The findings of a comparison, block by block. -/
theorem lint_eq_blocks (contract : List ContractEndpoint) (code : List CodeEndpoint)
    (registry : Types.Registry) :
    lint contract code registry =
      (contract.map (checkEndpoint registry code)).flatten ++
        (uncovered contract code).map uncoveredFinding ++
        (uncalled contract code).map uncalledFinding := by
  rw [lint, bodyFindings, List.flatMap_def, missingInContract_eq, missingInCode_eq]

/-- A body finding is about a body of an endpoint with a match. -/
theorem isAbout_of_mem_bodies {registry : Types.Registry} {parts : List (List Finding)}
    {finding : Finding} (h : List.Forall₂ (Compares code registry) contract parts)
    (member : finding ∈ parts.flatten) :
    ∃ endpoint ∈ contract, (∃ call, IsFirstMatch code endpoint call) ∧
      ∃ side, finding.IsAbout endpoint.name side := by
  induction h with
  | nil => cases member
  | @cons endpoint part contract parts compares _ ih =>
    rcases List.mem_append.1 (List.flatten_cons ▸ member) with here | later
    · exact ⟨endpoint, List.mem_cons_self, isAbout_of_mem_compares compares here⟩
    · obtain ⟨other, held, about⟩ := ih later
      exact ⟨other, List.mem_cons_of_mem _ held, about⟩

/-- Two entries that meet are not reported as missing, under whatever other entry. What a missing
call site shows is its method and path, and so every other call site that shows the same meets the
same endpoints; the same holds of endpoints. -/
theorem not_reported_of_sameRoute {registry : Types.Registry} {finding : Finding}
    (inContract : endpoint ∈ contract) (inCode : call ∈ code) (same : SameRoute endpoint call)
    (member : finding ∈ lint contract code registry) :
    finding.problem ≠ .notInContract call.method call.path ∧
      ∀ request response,
        finding.problem ≠ .notInCode endpoint.method endpoint.path request response := by
  rw [lint_eq_blocks, List.mem_append, List.mem_append, or_assoc] at member
  rcases member with body | unmet | unmet
  · -- A finding about a body shows neither problem.
    obtain ⟨_, _, _, side, _, about⟩ :=
      isAbout_of_mem_bodies (compares_bodyFindings contract code registry) body
    refine ⟨fun shown => ?_, fun request response shown => ?_⟩ <;>
      · rw [shown] at about
        cases about
  · -- A call site that shows the method and the path of this one would meet the endpoint too.
    obtain ⟨other, held, rfl⟩ := List.mem_map.1 unmet
    have alone : ∀ endpoint ∈ contract, ¬SameRoute endpoint other := by
      simpa using (List.mem_filter.1 held).2
    refine ⟨fun shown => ?_, fun request response shown => nomatch shown⟩
    simp only [uncoveredFinding, Problem.notInContract.injEq] at shown
    refine alone endpoint inContract ⟨shown.1.trans same.1, ?_⟩
    rw [shown.2]
    exact same.2
  · -- Likewise for an endpoint that shows the method and the path of the other one.
    obtain ⟨other, held, rfl⟩ := List.mem_map.1 unmet
    have alone : ∀ call ∈ code, ¬SameRoute other call := by
      simpa using (List.mem_filter.1 held).2
    refine ⟨fun shown => (nomatch shown), fun request response shown => ?_⟩
    simp only [uncalledFinding, Problem.notInCode.injEq] at shown
    refine alone call inCode ⟨same.1.trans shown.1.symm, ?_⟩
    rw [shown.2.1]
    exact same.2

/-- **Every endpoint is accounted for**: the findings of a comparison are those about bodies, then
those about call sites that the contract lacks, then those about endpoints that the code lacks. -/
theorem lint_accounts_for_endpoints (contract : List ContractEndpoint) (code : List CodeEndpoint)
    (registry : Types.Registry) :
    ∃ parts : List (List Finding),
      lint contract code registry =
        parts.flatten ++
          (code.filter fun call => ∀ endpoint ∈ contract, ¬SameRoute endpoint call).map
            uncoveredFinding ++
          (contract.filter fun endpoint => ∀ call ∈ code, ¬SameRoute endpoint call).map
            uncalledFinding ∧
      -- The body findings have a part for every endpoint, in the order of the contract.
      List.Forall₂ (Compares code registry) contract parts ∧
      (∀ finding ∈ parts.flatten, ∃ endpoint ∈ contract,
        (∃ call, IsFirstMatch code endpoint call) ∧
          ∃ side, finding.IsAbout endpoint.name side) ∧
      -- An endpoint has a first match or is among the missing ones, and never both.
      (∀ endpoint ∈ contract, (∃ call, IsFirstMatch code endpoint call) ↔
        endpoint ∉ contract.filter fun endpoint => ∀ call ∈ code, ¬SameRoute endpoint call) ∧
      -- Entries that meet are not reported on either side.
      ∀ endpoint ∈ contract, ∀ call ∈ code, SameRoute endpoint call →
        ∀ finding ∈ lint contract code registry,
          finding.problem ≠ .notInContract call.method call.path ∧
            ∀ request response,
              finding.problem ≠ .notInCode endpoint.method endpoint.path request response := by
  refine ⟨contract.map (checkEndpoint registry code), lint_eq_blocks contract code registry,
    compares_bodyFindings contract code registry, ?_, ?_, ?_⟩
  · exact fun finding member =>
      isAbout_of_mem_bodies (compares_bodyFindings contract code registry) member
  · intro endpoint member
    rw [exists_isFirstMatch_iff, List.mem_filter]
    simp [member]
  · exact fun endpoint inContract call inCode same finding member =>
      not_reported_of_sameRoute inContract inCode same member

end Accord.Lint
