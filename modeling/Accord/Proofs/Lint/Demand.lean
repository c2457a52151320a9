import Accord.Proofs.Lint.Sample
import Accord.Proofs.Script.Node
import Accord.Proofs.Types.Signature

/-!
# `Accord.Proofs.Lint.Demand`: the properties that a body has to have

A finding about a body names properties as missing and as expected. `demands_of_units` says
where they come from: they are what the payload type of a call provides, and all of it is asked
for. This is what the declarations write down, except for one name. An alias that is no object
type has the entry `type`, which stands for its text. Whatever extends such an alias takes the
entry over like a property, and a body of that type has to have it (`demands_alias_entry`).
-/

set_option autoImplicit false

namespace Accord

open Script (Node)
open Accord.Types (Definition Registry Provides Signs Lists)

/-- The name that a payload type is looked up by. -/
def TypeReference.payload (reference : TypeReference) : String :=
  (Types.element? reference.name).getD reference.name

namespace Lint

/-- A finding about a body is a finding of the comparison. -/
theorem mem_lint_of_mem_checkEndpoint {contract : List ContractEndpoint} {code : List CodeEndpoint}
    {registry : Registry} {endpoint : ContractEndpoint} {finding : Finding}
    (inContract : endpoint ∈ contract) (member : finding ∈ checkEndpoint registry code endpoint) :
    finding ∈ lint contract code registry := by
  rw [lint, List.append_assoc, List.mem_append]
  exact .inl (List.mem_flatMap.2 ⟨endpoint, inContract, member⟩)

/-- A finding that names properties as missing or expected is about a body. -/
theorem exists_checkBody_of_demanded {contract : List ContractEndpoint} {code : List CodeEndpoint}
    {registry : Registry} {finding : Finding} {property : String}
    (member : finding ∈ lint contract code registry)
    (demanded : property ∈ finding.problem.missing ∨ property ∈ finding.problem.expected) :
    ∃ endpoint call side, IsFirstMatch code endpoint call ∧
      finding ∈ checkBody endpoint.name side (endpoint.body side) (call.reference side)
        registry := by
  -- The findings about whole endpoints, behind those about bodies, name no properties.
  rw [lint, List.mem_append, List.mem_append, or_assoc] at member
  rcases member with body | notInContract | notInCode
  · obtain ⟨endpoint, -, found⟩ := List.mem_flatMap.1 body
    obtain ⟨⟨call, first⟩, side, about⟩ :=
      isAbout_of_mem_compares (compares_checkEndpoint code registry endpoint) found
    exact ⟨endpoint, call, side, first, (mem_checkEndpoint_iff first).1 ⟨found, about.2⟩⟩
  · obtain ⟨call, -, rfl⟩ := List.mem_map.1 notInContract
    rcases demanded with missing | expected
    · cases missing
    · cases expected
  · obtain ⟨endpoint, -, rfl⟩ := List.mem_map.1 notInCode
    rcases demanded with missing | expected
    · cases missing
    · cases expected

section Units

variable {units : List SourceUnit} (built : Types.Built units)

include built

/-- What a finding names as missing or expected is provided by the payload type of a call. -/
theorem provides_of_demanded {contract : List ContractEndpoint} {code : List CodeEndpoint}
    {finding : Finding} {property : String}
    (member : finding ∈ lint contract code (Types.inheritedRegistry (Types.declaredBy units)))
    (demanded : property ∈ finding.problem.missing ∨ property ∈ finding.problem.expected) :
    ∃ call ∈ code, ∃ side reference, call.reference side = some reference ∧
      Provides units reference.payload property := by
  obtain ⟨endpoint, call, side, first, found⟩ := exists_checkBody_of_demanded member demanded
  obtain ⟨reference, definition, declared, resolved, held⟩ :=
    exists_definition_of_demanded found demanded
  exact ⟨call, first.mem, side, reference, declared,
    (Types.mem_keys_collected built resolved _).1 held⟩

/-- What the payload type of the first match provides is missing from a sample without it. -/
theorem demanded_of_provides {contract : List ContractEndpoint} {code : List CodeEndpoint}
    {endpoint : ContractEndpoint} {call : CodeEndpoint} {side : Side} {reference : TypeReference}
    {sample : List (String × Json)} {property : String}
    (inContract : endpoint ∈ contract) (first : IsFirstMatch code endpoint call)
    (declared : call.reference side = some reference)
    (isSample : IsSample (endpoint.body side) sample)
    (provides : Provides units reference.payload property)
    (lacking : property ∉ Entries.keys sample) :
    ∃ finding ∈ lint contract code (Types.inheritedRegistry (Types.declaredBy units)),
      finding.IsAbout endpoint.name side ∧ property ∈ finding.problem.missing := by
  obtain ⟨definition, resolved⟩ := Types.exists_registered_of_provides built provides
  have held := (Types.mem_keys_collected built resolved property).2 provides
  have asked : ∃ finding ∈ checkSample endpoint.name side
      (Types.inheritedRegistry (Types.declaredBy units)) definition sample,
      property ∈ finding.problem.missing := exists_missing_iff.2 ⟨held, lacking⟩
  rw [← checkBody_of_isSample resolved isSample, ← declared] at asked
  obtain ⟨finding, member, missing⟩ := asked
  have inEndpoint := ((mem_checkEndpoint_iff first).2 member).1
  exact ⟨finding, mem_lint_of_mem_checkEndpoint inContract inEndpoint,
    isAbout_of_mem_checkBody member, missing⟩

end Units

/-- **What a body has to have**, for all units whose registry is built: the properties that a
registered type has are what its name provides. Every name that a finding shows as missing or
expected is provided by the payload type of a call, and whatever the payload type provides is
missing from a sample without it. So the entry of an alias that is no object type is asked for
exactly when the payload type reaches such an alias. -/
theorem demands_of_units {units : List SourceUnit} {registry : Registry}
    (collected : (Types.collect units).outcome = .ok registry) :
    (∀ name definition, registry.get? name = some definition →
      ∀ property, property ∈ definition.properties.keys ↔ Provides units name property) ∧
    ∀ contract code,
      (∀ finding ∈ lint contract code registry, ∀ property,
        property ∈ finding.problem.missing ∨ property ∈ finding.problem.expected →
        ∃ call ∈ code, ∃ side reference, call.reference side = some reference ∧
          Provides units reference.payload property) ∧
      ∀ endpoint ∈ contract, ∀ call, IsFirstMatch code endpoint call →
        ∀ side reference, call.reference side = some reference →
        ∀ sample, IsSample (endpoint.body side) sample →
        ∀ property, Provides units reference.payload property →
          property ∉ Entries.keys sample →
          ∃ finding ∈ lint contract code registry,
            finding.IsAbout endpoint.name side ∧ property ∈ finding.problem.missing := by
  obtain ⟨built, rfl⟩ := Types.built_of_outcome_collect collected
  refine ⟨fun name definition held property => ?registered,
    fun contract code => ⟨fun finding member property demanded => ?named, ?asked⟩⟩
  case registered => exact Types.mem_keys_collected built held property
  case named => exact provides_of_demanded built member demanded
  case asked =>
    intro endpoint inContract call first side reference declared sample isSample property provides
      lacking
    exact demanded_of_provides built inContract first declared isSample provides lacking

/-- An endpoint with a body that has one property. -/
def addUser : ContractEndpoint :=
  ⟨"Add user", "POST", "users", .object [("name", .string "A")], .null⟩

/-- The call that the endpoint meets. -/
def addUserCall : CodeEndpoint :=
  ⟨"POST", "users", some ⟨"User", .local, false⟩, none, "api.ts"⟩

/-- The one call site has the route of the endpoint. -/
theorem addUser_isFirstMatch : IsFirstMatch [addUserCall] addUser addUserCall :=
  isFirstMatch_singleton (by decide)

/-- An alias. -/
def baseAlias (target : Node) : Node :=
  .mk .typeAliasDeclaration none "" ""
    [.leaf .token "" "type", .mk .typeIdentifier (some .name) " " "Base" [],
      .leaf .token " " "=", target, .leaf .token "" ";"]

/-- An interface that extends the alias. -/
def baseUser : Node :=
  .interface "\n" "User" [.extending "Base"] [.property "name" (.leaf .predefinedType " " "string")]

/-- The tree of a unit with the alias and the interface. -/
def baseTree (target : Node) : Node :=
  .mk .program none "" "" [baseAlias target, baseUser]

/-- The interface reaches the alias. -/
theorem reaches_base {unit : SourceUnit} (built : Types.Built [unit])
    (user : Types.declaration? [unit] "User" = some baseUser) :
    Types.Reaches (Types.declaredBy [unit]) "User" "Base" :=
  .single (Types.extends_declaredBy built user rfl (by decide +kernel))

/-- A unit in which the alias stands for an object type. -/
def objectUnit : SourceUnit :=
  ⟨"types.ts",
    "type Base = \x7b id: string \x7d;\ninterface User extends Base \x7b name: string \x7d\n"⟩

/-- The object type. -/
def objectTarget : Node :=
  .braced .objectType (some .value) " " [.property "id" (.leaf .predefinedType " " "string")]

/-- The body has to have what the object type signs. -/
theorem demands_signature_of_base :
    ∃ registry, (Types.collect [objectUnit]).outcome = .ok registry ∧
      ∃ finding ∈ lint [addUser] [addUserCall] registry,
        finding.IsAbout "Add user" .request ∧ "id" ∈ finding.problem.missing := by
  have parsed : objectUnit.tree? = some (baseTree objectTarget) := by decide +kernel
  have built : Types.Built [objectUnit] := by
    rw [Types.Built, Types.nodesOf_singleton parsed]
    decide +kernel
  have user : Types.declaration? [objectUnit] "User" = some baseUser := by
    rw [Types.declaration?, Types.nodesOf_singleton parsed]
    decide +kernel
  have base : Types.declaration? [objectUnit] "Base" = some (baseAlias objectTarget) := by
    rw [Types.declaration?, Types.nodesOf_singleton parsed]
    decide +kernel
  have provides : Provides [objectUnit] "User" "id" :=
    .inl ⟨"Base", baseAlias objectTarget, reaches_base built user, base, by decide +kernel⟩
  have collected := Types.outcome_collect_of_built built
  have demands := (demands_of_units collected).2
  exact ⟨_, collected, (demands [addUser] [addUserCall]).2 addUser (List.mem_singleton.2 rfl)
    addUserCall addUser_isFirstMatch .request _ rfl _ .itself "id" provides (by decide)⟩

/-- A unit in which the alias stands for an intersection. -/
def intersectionUnit : SourceUnit :=
  ⟨"types.ts",
    "type Base = \x7b id: string \x7d & \x7b created: string \x7d;\n" ++
      "interface User extends Base \x7b name: string \x7d\n"⟩

/-- The intersection. -/
def intersectionTarget : Node :=
  .mk .intersectionType (some .value) " " ""
    [.braced .objectType none "" [.property "id" (.leaf .predefinedType " " "string")],
      .leaf .token " " "&",
      .braced .objectType none " " [.property "created" (.leaf .predefinedType " " "string")]]

/-- The entry of an alias is inherited and asked for, though no signature has its name. -/
theorem demands_alias_entry :
    ∃ registry user,
      (Types.collect [intersectionUnit]).outcome = .ok registry ∧
      registry.get? "User" = some user ∧ user.kind = .interface ∧
      "type" ∈ user.properties.keys ∧
      (∀ node ∈ Types.nodesOf [intersectionUnit], ¬Signs "type" node ∧ ¬Lists "type" node) ∧
      ∃ finding ∈ lint [addUser] [addUserCall] registry, "type" ∈ finding.problem.missing := by
  have parsed : intersectionUnit.tree? = some (baseTree intersectionTarget) := by decide +kernel
  have built : Types.Built [intersectionUnit] := by
    rw [Types.Built, Types.nodesOf_singleton parsed]
    decide +kernel
  have user : Types.declaration? [intersectionUnit] "User" = some baseUser := by
    rw [Types.declaration?, Types.nodesOf_singleton parsed]
    decide +kernel
  have base : Types.declaration? [intersectionUnit] "Base" =
      some (baseAlias intersectionTarget) := by
    rw [Types.declaration?, Types.nodesOf_singleton parsed]
    decide +kernel
  -- The alias is no object type, so it has the entry, and the interface reaches it.
  have provides : Provides [intersectionUnit] "User" "type" :=
    .inr (.inr ⟨rfl, "Base", _, reaches_base built user, base, rfl, rfl⟩)
  obtain ⟨definition, defined, declared⟩ := Types.exists_definition_of_declaration? built user
  have held := Types.registered_iff.2 ⟨definition, declared, rfl⟩
  have isInterface : definition.kind = .interface := by
    obtain rfl := Except.ok.inj (Option.some.inj defined)
    rfl
  have declares : addUserCall.reference .request = some ⟨"User", .local, false⟩ := rfl
  obtain ⟨finding, member, -, missing⟩ :=
    demanded_of_provides built (List.mem_singleton.2 rfl) addUser_isFirstMatch declares .itself
      provides (by decide)
  refine ⟨_, _, Types.outcome_collect_of_built built, held, by simpa using isInterface,
    (Types.mem_keys_collected built held _).2 provides, ?_, finding, member, missing⟩
  -- No node of the tree writes this name.
  rw [Types.nodesOf_singleton parsed]
  decide +kernel

end Lint

end Accord
