import Accord.Proofs.Lint.Sample

/-!
# `Accord.Proofs.Lint.Accounting`: every property of a body is accounted for once

A sample and the type declared for it have three lists of names: those that only the type has,
those that only the sample has, and those that both have. The findings about the sample are
three blocks in that order, one finding at most for each of the first two lists and one at most
for each name of the third (`checkBody_accounts`).

The third block is the one that needs an argument. The check walks over the entries of the type
and looks each name up in the sample; `checkValues_eq_filterMap` turns that into a walk over the
shared names, where each name has the problem `problemOf?` or none. What is found about a single
property is read off from it: names are distinct, so it is that problem and nothing else
(`valueFindings_eq`).
-/

set_option autoImplicit false

namespace Accord.Lint

open Accord.Types

variable {registry : Registry} {definition : Definition} {sample : List (String × Json)}
  {endpoint : String} {side : Side}

/-! ### Names on both sides -/

/-- The declared names that a sample has, in the order of the declarations. -/
def sharedNames (definition : Definition) (sample : List (String × Json)) : List String :=
  definition.properties.keys.filter fun name => name ∈ Entries.keys sample

/-- The declared names that a sample lacks, in the order of the declarations. -/
def lackedNames (definition : Definition) (sample : List (String × Json)) : List String :=
  definition.properties.keys.filter fun name => name ∉ Entries.keys sample

/-- The names in a sample that are not declared, in the order of the sample. -/
def undeclaredNames (definition : Definition) (sample : List (String × Json)) : List String :=
  (Entries.keys sample).filter fun name => name ∉ definition.properties.keys

/-- A shared name is one that the type declares and the sample has. -/
theorem mem_sharedNames_iff {name : String} :
    name ∈ sharedNames definition sample ↔
      name ∈ definition.properties.keys ∧ name ∈ Entries.keys sample := by
  simp [sharedNames]

/-- No name is shared twice, since a type declares each of its names once. -/
theorem nodup_sharedNames : (sharedNames definition sample).Nodup :=
  definition.properties.nodup.filter _

/-- What is wrong with the value that a sample has for a declared property. -/
def problemOf? (registry : Registry) (definition : Definition) (sample : List (String × Json))
    (property : String) : Option ValueProblem := do
  let text ← definition.properties.get? property
  let value ← Entries.get? sample property
  checkValue registry (describeText text) value

/-- The problem of a property is that of its value under its declared text. -/
theorem problemOf?_eq {property text : String} {value : Json}
    (declared : definition.properties.get? property = some text)
    (held : Entries.get? sample property = some value) :
    problemOf? registry definition sample property =
      checkValue registry (describeText text) value := by
  simp [problemOf?, declared, held]

/-- The findings about values are those about the shared names. -/
theorem checkValues_eq_filterMap :
    checkValues endpoint side registry definition sample =
      (sharedNames definition sample).filterMap fun property =>
        (problemOf? registry definition sample property).map fun problem =>
          ⟨endpoint, .value side property problem⟩ := by
  have names : definition.properties.keys = definition.properties.entries.map Prod.fst := rfl
  rw [checkValues, sharedNames, List.filterMap_filter, names, List.filterMap_map]
  apply List.filterMap_congr
  intro entry member
  have declared : definition.properties.get? entry.1 = some entry.2 :=
    Entries.get?_eq_some_of_mem definition.properties.nodup member
  cases held : Entries.get? sample entry.1 with
  | none =>
    have absent : entry.1 ∉ Entries.keys sample := (Entries.get?_eq_none_iff _ _).1 held
    rw [checkProperty_eq, held]
    simp [absent]
  | some value =>
    have shared : entry.1 ∈ Entries.keys sample := (Entries.mem_keys_iff _ _).2 ⟨value, held⟩
    rw [checkProperty_eq, held, Option.bind_some, ← problemOf?_eq declared held]
    simp [shared]

/-- The kinds of findings about values. -/
theorem kind_valueProblem (problem : ValueProblem) :
    problem.kind = .invalidEnumValue ∨ problem.kind = .typeMismatch ∨
      problem.kind = .referencedTypeNotFound := by
  cases problem <;> simp [ValueProblem.kind]

/-! ### Findings about one property -/

/-- The body and the property whose value a problem is about, if it is about one. -/
def Problem.subject? : Problem → Option (Side × String)
  | .value side property _ => some (side, property)
  | _ => none

/-- The findings about the value of a property in a body. -/
def findingsOn (side : Side) (property : String) (findings : List Finding) : List Finding :=
  findings.filter fun finding => finding.problem.subject? = some (side, property)

/-- The findings on a property are found part by part. -/
theorem findingsOn_append {property : String} (first second : List Finding) :
    findingsOn side property (first ++ second) =
      findingsOn side property first ++ findingsOn side property second :=
  List.filter_append ..

/-- Findings about other subjects are none on the property. -/
theorem findingsOn_eq_nil {property : String} {findings : List Finding}
    (other : ∀ finding ∈ findings, finding.problem.subject? ≠ some (side, property)) :
    findingsOn side property findings = [] := by
  rw [findingsOn, List.filter_eq_nil_iff]
  intro finding member
  simpa using other finding member

/-- Among results that show the name they are about, those about one of the names are what that name
has for a result. -/
theorem filter_filterMap_of_shown {β : Type} {result? : String → Option β} {about : β → Prop}
    [DecidablePred about] {names : List String} {name : String} (distinct : names.Nodup)
    (member : name ∈ names)
    (shown : ∀ other result, result? other = some result → (about result ↔ other = name)) :
    (names.filterMap result?).filter about = (result? name).toList := by
  have kept : ∀ other, (result? other).filter about =
      if other = name then result? other else none := by
    intro other
    cases found : result? other with
    | none => simp
    | some result => simp [Option.filter, shown other result found]
  have single : names.filter (fun other => other = name) = [name] := by
    rw [List.filter_eq, distinct.count, if_pos member, List.replicate_one]
  calc (names.filterMap result?).filter about
      = names.filterMap fun other => if other = name then result? other else none := by
        rw [List.filter_filterMap]
        exact List.filterMap_congr fun other _ => kept other
    _ = (names.filter fun other => other = name).filterMap result? := by
        rw [List.filterMap_filter]
        simp
    _ = (result? name).toList := by
        rw [single]
        cases found : result? name <;> simp [found]

/-- What is found about the value of a property in a sample is its problem, if it has one. -/
theorem findingsOn_checkSample {property text : String} {value : Json}
    (declared : definition.properties.get? property = some text)
    (held : Entries.get? sample property = some value) :
    findingsOn side property (checkSample endpoint side registry definition sample) =
      ((checkValue registry (describeText text) value).map fun problem =>
        ⟨endpoint, .value side property problem⟩).toList := by
  -- Findings about names have no single property for a subject.
  have noMissing : findingsOn side property (checkMissing endpoint side definition.properties.keys
      (Entries.keys sample)) = [] := by
    apply findingsOn_eq_nil
    intro finding member
    obtain ⟨-, rfl⟩ := mem_checkMissing_iff.1 member
    nofun
  have noExtra : findingsOn side property (checkExtra endpoint side definition.properties.keys
      (Entries.keys sample)) = [] := by
    apply findingsOn_eq_nil
    intro finding member
    obtain ⟨-, rfl⟩ := mem_checkExtra_iff.1 member
    nofun
  have shared : property ∈ sharedNames definition sample :=
    mem_sharedNames_iff.2
      ⟨(Table.mem_keys_iff _ _).2 ⟨text, declared⟩, (Entries.mem_keys_iff _ _).2 ⟨value, held⟩⟩
  rw [checkSample, findingsOn_append, findingsOn_append, noMissing, noExtra,
    checkValues_eq_filterMap, ← problemOf?_eq declared held, List.nil_append, List.nil_append]
  -- The name is shared once, so at most one finding is kept.
  apply filter_filterMap_of_shown nodup_sharedNames shared
  intro other finding found
  obtain ⟨problem, -, rfl⟩ := Option.map_eq_some_iff.1 found
  simp [Problem.subject?]

/-- What is found about the other body is not about the property. -/
theorem findingsOn_checkBody_of_ne {property : String} {other : Side} (differs : other ≠ side)
    {body : Json} {reference : Option TypeReference} :
    findingsOn side property (checkBody endpoint other body reference registry) = [] := by
  apply findingsOn_eq_nil
  intro finding member shown
  have about := (isAbout_of_mem_checkBody member).2
  obtain ⟨name, problem⟩ := finding
  cases problem with
  | value =>
    obtain ⟨rfl, -⟩ := Prod.mk.inj (Option.some.inj shown)
    exact differs (Option.some.inj about).symm
  | _ => cases shown

/-- The findings about the value that an endpoint shows for a property. -/
def valueFindings (registry : Registry) (code : List CodeEndpoint) (endpoint : ContractEndpoint)
    (side : Side) (property : String) : List Finding :=
  findingsOn side property (checkEndpoint registry code endpoint)

/-- What is found about a value that an endpoint shows is its problem under the declared text,
if it has one. -/
theorem valueFindings_eq {code : List CodeEndpoint} {endpoint : ContractEndpoint}
    {property text : String} {value : Json}
    (shows : Shows registry code endpoint side property text value) :
    valueFindings registry code endpoint side property =
      ((checkValue registry (describeText text) value).map fun problem =>
        ⟨endpoint.name, .value side property problem⟩).toList := by
  obtain ⟨call, reference, definition, sample, first, declared, resolved, isSample, hasText,
    hasValue⟩ := shows
  have ofSide : findingsOn side property (checkBody endpoint.name side (endpoint.body side)
      (call.reference side) registry) =
        ((checkValue registry (describeText text) value).map fun problem =>
          ⟨endpoint.name, .value side property problem⟩).toList := by
    rw [declared, checkBody_of_isSample resolved isSample]
    exact findingsOn_checkSample hasText hasValue
  rw [valueFindings, checkEndpoint_of_isFirstMatch first, findingsOn_append]
  cases side with
  | request => rw [ofSide, findingsOn_checkBody_of_ne (by decide), List.append_nil]
  | response => rw [ofSide, findingsOn_checkBody_of_ne (by decide), List.nil_append]

/-- Nothing is found about a value exactly when it is right. -/
theorem valueFindings_eq_nil_iff {code : List CodeEndpoint} {endpoint : ContractEndpoint}
    {property text : String} {value : Json}
    (shows : Shows registry code endpoint side property text value) :
    valueFindings registry code endpoint side property = [] ↔
      checkValue registry (describeText text) value = none := by
  rw [valueFindings_eq shows]
  cases checkValue registry (describeText text) value <;> simp

/-! ### The three blocks -/

/-- The wording of a finding about names that are missing or too much. -/
def namesWording (word endpoint : String) (side : Side) (names expected : List String) : String :=
  s!"{word} properties in {side.text} body for endpoint {endpoint}: {listed names}. " ++
    s!"Expected properties: {listed expected}"

/-- A block of findings about names: one finding with a wording if there are any names, and nothing
otherwise. -/
structure ReportsNames (endpoint : String) (kind : Kind) (wording : String) (names : List String)
    (block : List Finding) : Prop where
  none : names = [] → block = []
  single : names ≠ [] → ∃ finding, block = [finding] ∧ finding.endpoint = endpoint ∧
    finding.kind = kind ∧ finding.message = wording

/-- `missingNames` keeps the expected names that are not there, in their order. -/
theorem missingNames_eq (expected actual : List String) :
    missingNames expected actual = expected.filter fun name => name ∉ actual := by
  simp [missingNames]

/-- The names that only the type has are one finding, if there are any. -/
theorem reportsNames_checkMissing :
    ReportsNames endpoint .missingProperty
      (namesWording "Missing" endpoint side (lackedNames definition sample)
        definition.properties.keys)
      (lackedNames definition sample)
      (checkMissing endpoint side definition.properties.keys (Entries.keys sample)) := by
  rw [lackedNames, ← missingNames_eq, checkMissing]
  refine ⟨fun empty => by simp [empty], fun some => ?_⟩
  exact ⟨⟨endpoint, .missingProperties side _ _⟩, by simp [some], rfl, rfl, rfl⟩

/-- The names that only the sample has are one finding, if there are any. -/
theorem reportsNames_checkExtra :
    ReportsNames endpoint .extraProperty
      (namesWording "Extra" endpoint side (undeclaredNames definition sample)
        definition.properties.keys)
      (undeclaredNames definition sample)
      (checkExtra endpoint side definition.properties.keys (Entries.keys sample)) := by
  rw [undeclaredNames, ← missingNames_eq, checkExtra]
  refine ⟨fun empty => by simp [empty], fun some => ?_⟩
  exact ⟨⟨endpoint, .extraProperties side _ _⟩, by simp [some], rfl, rfl, rfl⟩

/-- Such a block has at most one finding. -/
theorem ReportsNames.length_le {kind : Kind} {wording : String} {names : List String}
    {block : List Finding} (reports : ReportsNames endpoint kind wording names block) :
    block.length ≤ 1 := by
  by_cases empty : names = []
  · simp [reports.none empty]
  · obtain ⟨finding, rfl, -⟩ := reports.single empty
    exact Nat.le_refl 1

/-- The kind of the finding about a body whose type is not found. -/
def Side.missingTypeKind : Side → Kind
  | .request => .missingRequestType
  | .response => .missingResponseType

/-- **Every property of a body is accounted for once.** A body whose type is not found has one
finding. Else the names that only the type has are one finding, those that only the sample has
are another, and each name that both have is one more if its value is wrong. -/
theorem checkBody_accounts (registry : Registry) (endpoint : ContractEndpoint) (side : Side)
    (reference : Option TypeReference) :
    (endpoint.body side ≠ .null →
      (∀ declared, reference = some declared → registry.resolve declared.name = none) →
      ∃ finding,
        checkBody endpoint.name side (endpoint.body side) reference registry = [finding] ∧
        finding.endpoint = endpoint.name ∧ finding.kind = side.missingTypeKind) ∧
    ∀ declared definition sample, reference = some declared →
      registry.resolve declared.name = some definition → IsSample (endpoint.body side) sample →
      ∃ missing extra values,
        checkBody endpoint.name side (endpoint.body side) reference registry =
          missing ++ extra ++ values ∧
        ReportsNames endpoint.name .missingProperty
          (namesWording "Missing" endpoint.name side (lackedNames definition sample)
            definition.properties.keys)
          (lackedNames definition sample) missing ∧
        ReportsNames endpoint.name .extraProperty
          (namesWording "Extra" endpoint.name side (undeclaredNames definition sample)
            definition.properties.keys)
          (undeclaredNames definition sample) extra ∧
        (values = (sharedNames definition sample).filterMap fun property =>
          (problemOf? registry definition sample property).map fun problem =>
            ⟨endpoint.name, .value side property problem⟩) ∧
        (∀ finding ∈ values, finding.kind = .invalidEnumValue ∨ finding.kind = .typeMismatch ∨
          finding.kind = .referencedTypeNotFound) ∧
        (missing ++ extra ++ values).length ≤ 2 + (sharedNames definition sample).length := by
  constructor
  · intro present unresolved
    have noType : (reference.bind fun reference => registry.resolve reference.name) = none :=
      Option.bind_eq_none_iff.2 unresolved
    refine ⟨⟨endpoint.name, .missingType side⟩, ?_, rfl, by cases side <;> rfl⟩
    unfold checkBody
    split
    · next absent => exact absurd absent present
    · rw [noType]
  · rintro declared definition sample rfl resolved isSample
    refine ⟨_, _, _, checkBody_of_isSample resolved isSample, reportsNames_checkMissing,
      reportsNames_checkExtra, checkValues_eq_filterMap, ?kinds, ?length⟩
    case kinds =>
      intro finding member
      obtain ⟨property, -, checked⟩ := List.mem_filterMap.1 member
      obtain ⟨value, problem, -, -, rfl⟩ := checkProperty_eq_some_iff.1 checked
      exact kind_valueProblem problem
    -- One for each block of names and one for each shared name.
    case length =>
      have missing : (checkMissing endpoint.name side definition.properties.keys
          (Entries.keys sample)).length ≤ 1 := reportsNames_checkMissing.length_le
      have extra : (checkExtra endpoint.name side definition.properties.keys
          (Entries.keys sample)).length ≤ 1 := reportsNames_checkExtra.length_le
      have values : (checkValues endpoint.name side registry definition sample).length ≤
          (sharedNames definition sample).length := by
        rw [checkValues_eq_filterMap]
        exact List.length_filterMap_le _ _
      rw [List.length_append, List.length_append]
      omega

/-- An endpoint whose example lacks a declared property, has one that is not declared and shows
a wrong value for a third one. -/
def register : ContractEndpoint :=
  ⟨"Register", "POST", "users",
    .array [.null, .object [("email", .string "a@example.com"), ("role", .string "root")]], .null⟩

/-- Each of the three properties has its finding, and an example whose type is not found has one. -/
theorem kinds_register :
    (checkBody register.name .request (register.body .request) (some ⟨"User", .local, true⟩)
      users).map Finding.kind = [.missingProperty, .extraProperty, .invalidEnumValue] ∧
    (checkBody register.name .request (register.body .request) (some ⟨"Guest", .local, true⟩)
      users).map Finding.kind = [.missingRequestType] := by
  have sampled : IsSample (register.body .request)
      [("email", .string "a@example.com"), ("role", .string "root")] :=
    @IsSample.first [.null] [] _ (by simp)
  constructor
  · obtain ⟨missing, extra, values, found, missingBlock, extraBlock, rfl, -⟩ :=
      (checkBody_accounts users register .request (some ⟨"User", .local, true⟩)).2 _ _ _ rfl rfl
        sampled
    obtain ⟨lacks, rfl, -, missingKind, -⟩ := missingBlock.single (by decide)
    obtain ⟨shows, rfl, -, extraKind, -⟩ := extraBlock.single (by decide)
    rw [found, List.map_append, List.map_append, List.map_singleton, List.map_singleton,
      missingKind, extraKind]
    decide
  · obtain ⟨finding, found, -, kind⟩ :=
      (checkBody_accounts users register .request (some ⟨"Guest", .local, true⟩)).1 nofun
        (fun declared same => by
          obtain rfl := Option.some.inj same
          rfl)
    rw [found, List.map_singleton, kind]
    rfl

end Accord.Lint
