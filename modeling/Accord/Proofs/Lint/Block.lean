import Accord.Proofs.Lint.Coverage

/-!
# `Accord.Proofs.Lint.Block`: the blocks of a comparison by kind

The findings of a comparison come in three blocks, and the kind of a finding says which one it
is in. So the blocks can be read off a list of findings. `blockOf_bodies_lint`,
`blockOf_notInContract_lint` and `blockOf_notInCode_lint` say that they are those that `lint`
puts together, and `lint_eq_append_blocks` that there is nothing else in it.

`mem_lint_uncovered_iff` says what a finding about a call site in the second block means.
-/

set_option autoImplicit false

namespace Accord.Lint

open Accord.Types (Registry)

/-- The blocks of a comparison, in their order. -/
inductive Block where
  /-- What is found about bodies. -/
  | bodies
  /-- Call sites that the contract lacks. -/
  | notInContract
  /-- Endpoints that the code lacks. -/
  | notInCode
  deriving DecidableEq

/-- The block that findings of a kind are in. -/
def Kind.block : Kind → Block
  | .endpointMissingInContract => .notInContract
  | .endpointMissingInCode => .notInCode
  | _ => .bodies

/-- The findings of a block, in order. -/
def blockOf (block : Block) (findings : List Finding) : List Finding :=
  findings.filter fun finding => finding.kind.block = block

variable {contract : List ContractEndpoint} {code : List CodeEndpoint} {registry : Registry}
  {finding : Finding}

/-! ### Where findings are -/

/-- A finding about a side of an endpoint is about a body. -/
theorem block_of_isAbout {endpoint : String} {side : Side} (about : finding.IsAbout endpoint side) :
    finding.kind.block = .bodies := by
  obtain ⟨name, problem⟩ := finding
  obtain ⟨-, onSide⟩ := about
  cases problem with
  | missingType side => cases side <;> rfl
  | missingProperties | extraProperties => rfl
  | value _ _ problem => cases problem <;> rfl
  | notInContract | notInCode => cases onSide

/-- A finding about a body is of the first block. -/
theorem block_of_mem_bodyFindings (member : finding ∈ bodyFindings contract code registry) :
    finding.kind.block = .bodies := by
  rw [bodyFindings, List.flatMap_def] at member
  obtain ⟨endpoint, -, -, side, about⟩ :=
    isAbout_of_mem_bodies (compares_bodyFindings contract code registry) member
  exact block_of_isAbout about

/-- A call site that the contract lacks is of the second block. -/
theorem block_of_mem_missingInContract (member : finding ∈ missingInContract contract code) :
    finding.kind.block = .notInContract := by
  obtain ⟨call, -, rfl⟩ := List.mem_map.1 member
  rfl

/-- An endpoint that the code lacks is of the third block. -/
theorem block_of_mem_missingInCode (member : finding ∈ missingInCode contract code) :
    finding.kind.block = .notInCode := by
  obtain ⟨endpoint, -, rfl⟩ := List.mem_map.1 member
  rfl

/-- Findings that are all in one block are that block of them, and every other block is empty. -/
theorem blockOf_eq {findings : List Finding} {block : Block}
    (within : ∀ finding ∈ findings, finding.kind.block = block) (wanted : Block) :
    blockOf wanted findings = if wanted = block then findings else [] := by
  split
  · next same =>
    exact List.filter_eq_self.2 fun finding member => by simp [within finding member, same]
  · next other =>
    refine List.filter_eq_nil_iff.2 fun finding member => ?_
    simpa [within finding member] using Ne.symm other

/-- The blocks of a comparison are those of its parts. -/
theorem blockOf_lint (contract : List ContractEndpoint) (code : List CodeEndpoint)
    (registry : Registry) (block : Block) :
    blockOf block (lint contract code registry) =
      (if block = .bodies then bodyFindings contract code registry else []) ++
        (if block = .notInContract then missingInContract contract code else []) ++
        if block = .notInCode then missingInCode contract code else [] := by
  have split : blockOf block (lint contract code registry) =
      blockOf block (bodyFindings contract code registry) ++
        blockOf block (missingInContract contract code) ++
        blockOf block (missingInCode contract code) := by
    rw [lint, blockOf, List.filter_append, List.filter_append]
    rfl
  -- Each part has findings of one block only, so the filter takes it whole or not at all.
  rw [split, blockOf_eq (fun _ => block_of_mem_bodyFindings) block,
    blockOf_eq (fun _ => block_of_mem_missingInContract) block,
    blockOf_eq (fun _ => block_of_mem_missingInCode) block]

/-- The first block of a comparison is what is found about bodies. -/
theorem blockOf_bodies_lint (contract : List ContractEndpoint) (code : List CodeEndpoint)
    (registry : Registry) :
    blockOf .bodies (lint contract code registry) = bodyFindings contract code registry := by
  simp [blockOf_lint]

/-- The second block is what the contract lacks. -/
theorem blockOf_notInContract_lint (contract : List ContractEndpoint) (code : List CodeEndpoint)
    (registry : Registry) :
    blockOf .notInContract (lint contract code registry) = missingInContract contract code := by
  simp [blockOf_lint]

/-- The third block is what the code lacks. -/
theorem blockOf_notInCode_lint (contract : List ContractEndpoint) (code : List CodeEndpoint)
    (registry : Registry) :
    blockOf .notInCode (lint contract code registry) = missingInCode contract code := by
  simp [blockOf_lint]

/-- A comparison is its three blocks, one after the other. -/
theorem lint_eq_append_blocks (contract : List ContractEndpoint) (code : List CodeEndpoint)
    (registry : Registry) :
    lint contract code registry =
      blockOf .bodies (lint contract code registry) ++
        blockOf .notInContract (lint contract code registry) ++
        blockOf .notInCode (lint contract code registry) := by
  rw [blockOf_bodies_lint, blockOf_notInContract_lint, blockOf_notInCode_lint, lint]

/-! ### What a missing call site means -/

/-- A call site is found to be missing when no endpoint of the contract meets it. Another call site
that shows the same method and path meets the same endpoints. -/
theorem mem_lint_uncovered_iff {call : CodeEndpoint} (inCode : call ∈ code) :
    uncoveredFinding call ∈ lint contract code registry ↔
      ∀ endpoint ∈ contract, ¬SameRoute endpoint call := by
  constructor
  · intro member endpoint inContract same
    exact (not_reported_of_sameRoute inContract inCode same member).1 rfl
  · intro alone
    have inBlock : uncoveredFinding call ∈ missingInContract contract code := by
      rw [missingInContract_eq]
      exact List.mem_map_of_mem (List.mem_filter.2 ⟨inCode, by simpa using alone⟩)
    rw [lint]
    exact List.mem_append_left _ (List.mem_append_right _ inBlock)

end Accord.Lint
