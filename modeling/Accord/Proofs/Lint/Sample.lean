import Accord.Proofs.Lint.Clean

/-!
# `Accord.Proofs.Lint.Sample`: what is found about one side of an endpoint

An endpoint with a match has two bodies, each with the type that the match declares for it. What
is found about a side is what `checkBody` finds about that body (`mem_checkEndpoint_iff`), and
with a declared type and a sample it is what `checkSample` finds (`checkBody_of_isSample`): the
names that are missing (`exists_missing_iff`), those that are too much, and the values.
-/

set_option autoImplicit false

namespace Accord

open Accord.Types (Definition Registry describeText)

/-- The example body on a side. -/
def ContractEndpoint.body (endpoint : ContractEndpoint) : Lint.Side → Json
  | .request => endpoint.requestBody
  | .response => endpoint.responseBody

/-- The type that a call site declares on a side. -/
def CodeEndpoint.reference (call : CodeEndpoint) : Lint.Side → Option TypeReference
  | .request => call.requestBody
  | .response => call.responseBody

namespace Lint

variable {registry : Registry} {code : List CodeEndpoint} {endpoint : ContractEndpoint}
  {call : CodeEndpoint} {side : Side} {finding : Finding}

/-- What is found about an endpoint with a match is what is found about its bodies. -/
theorem checkEndpoint_of_isFirstMatch (first : IsFirstMatch code endpoint call) :
    checkEndpoint registry code endpoint =
      checkBody endpoint.name .request (endpoint.body .request) (call.reference .request)
        registry ++
      checkBody endpoint.name .response (endpoint.body .response) (call.reference .response)
        registry := by
  rw [checkEndpoint, findMatch_eq_some_iff.2 first]
  rfl

/-- What is found about a side of an endpoint with a match is what is found about that body. -/
theorem mem_checkEndpoint_iff (first : IsFirstMatch code endpoint call) :
    finding ∈ checkEndpoint registry code endpoint ∧ finding.problem.side? = some side ↔
      finding ∈ checkBody endpoint.name side (endpoint.body side) (call.reference side)
        registry := by
  rw [checkEndpoint_of_isFirstMatch first, List.mem_append]
  constructor
  · rintro ⟨request | response, about⟩
    -- A finding names its side, so one of the two bodies is ruled out.
    · obtain rfl := Option.some.inj ((isAbout_of_mem_checkBody request).2.symm.trans about)
      exact request
    · obtain rfl := Option.some.inj ((isAbout_of_mem_checkBody response).2.symm.trans about)
      exact response
  · intro member
    refine ⟨?_, (isAbout_of_mem_checkBody member).2⟩
    cases side with
    | request => exact .inl member
    | response => exact .inr member

/-- A body with a declared type and a sample is checked by the sample. -/
theorem checkBody_of_isSample {name : String} {body : Json} {reference : TypeReference}
    {definition : Definition} {sample : List (String × Json)}
    (resolved : registry.resolve reference.name = some definition)
    (isSample : IsSample body sample) :
    checkBody name side body (some reference) registry =
      checkSample name side registry definition sample := by
  have sampled := sample?_eq_some_iff.2 isSample
  unfold checkBody
  split
  · cases sampled
  · simp only [Option.bind_some, resolved, sampled]

/-! ### Names that are missing -/

/-- The names that a problem says are missing. -/
def Problem.missing : Problem → List String
  | .missingProperties _ missing _ => missing
  | _ => []

/-- The names that a problem says are expected. -/
def Problem.expected : Problem → List String
  | .missingProperties _ _ expected | .extraProperties _ _ expected => expected
  | _ => []

/-- A name is missing when it is expected and not there. -/
theorem mem_missingNames_iff {expected actual : List String} {name : String} :
    name ∈ missingNames expected actual ↔ name ∈ expected ∧ name ∉ actual := by
  simp [missingNames]

/-- The names that are missing from a sample are the declared ones that it does not have. -/
theorem exists_missing_iff {name property : String} {definition : Definition}
    {sample : List (String × Json)} :
    (∃ finding ∈ checkSample name side registry definition sample,
        property ∈ finding.problem.missing) ↔
      property ∈ definition.properties.keys ∧ property ∉ Entries.keys sample := by
  rw [← mem_missingNames_iff]
  constructor
  · rintro ⟨⟨name, problem⟩, member, missing⟩
    obtain ⟨-, isProblem⟩ := mem_checkSample_iff.1 member
    cases isProblem with
    | missing => exact missing
    | extra | value => cases missing
  · intro missing
    have loud : missingNames definition.properties.keys (Entries.keys sample) ≠ [] :=
      List.ne_nil_of_mem missing
    exact ⟨⟨name, _⟩, mem_checkSample_iff.2 ⟨rfl, .missing loud⟩, missing⟩

/-- A finding about a sample names declared properties as missing or expected. -/
theorem mem_keys_of_demanded {name property : String} {definition : Definition}
    {sample : List (String × Json)}
    (member : finding ∈ checkSample name side registry definition sample)
    (demanded : property ∈ finding.problem.missing ∨ property ∈ finding.problem.expected) :
    property ∈ definition.properties.keys := by
  obtain ⟨name, problem⟩ := finding
  obtain ⟨-, isProblem⟩ := mem_checkSample_iff.1 member
  rcases demanded with missing | expected
  · cases isProblem with
    | missing => exact (mem_missingNames_iff.1 missing).1
    | extra | value => cases missing
  · cases isProblem with
    | missing | extra => exact expected
    | value => cases expected

/-- A finding about a body names properties of the declared type as missing or expected. -/
theorem exists_definition_of_demanded {name property : String} {body : Json}
    {reference : Option TypeReference}
    (member : finding ∈ checkBody name side body reference registry)
    (demanded : property ∈ finding.problem.missing ∨ property ∈ finding.problem.expected) :
    ∃ declared definition, reference = some declared ∧
      registry.resolve declared.name = some definition ∧
      property ∈ definition.properties.keys := by
  unfold checkBody at member
  split at member
  · cases member
  · split at member
    · obtain rfl := List.mem_singleton.1 member
      rcases demanded with missing | expected
      · cases missing
      · cases expected
    · next definition resolved =>
      obtain ⟨declared, rfl, found⟩ := Option.bind_eq_some_iff.1 resolved
      split at member
      · cases member
      · exact ⟨declared, definition, rfl, found, mem_keys_of_demanded member demanded⟩

/-! ### Values of properties -/

/-- The findings about a property show the problem of its value. -/
theorem exists_value_of_checkSample_iff {name property : String} {definition : Definition}
    {sample : List (String × Json)} {problem : ValueProblem} :
    (∃ finding ∈ checkSample name side registry definition sample,
        finding.problem = .value side property problem) ↔
      ∃ text value, definition.properties.get? property = some text ∧
        Entries.get? sample property = some value ∧
        checkValue registry (describeText text) value = some problem := by
  constructor
  · rintro ⟨⟨name, found⟩, member, rfl⟩
    obtain ⟨-, ⟨⟩ | ⟨⟩ | ⟨declared, held, wrong⟩⟩ := mem_checkSample_iff.1 member
    exact ⟨_, _, declared, held, wrong⟩
  · rintro ⟨text, value, declared, held, wrong⟩
    exact ⟨⟨name, _⟩, mem_checkSample_iff.2 ⟨rfl, .value declared held wrong⟩, rfl⟩

/-- The example on a side of an endpoint with a match shows a value under a property that the
payload type declares with a text. -/
def Shows (registry : Registry) (code : List CodeEndpoint) (endpoint : ContractEndpoint)
    (side : Side) (property text : String) (value : Json) : Prop :=
  ∃ call reference definition sample, IsFirstMatch code endpoint call ∧
    call.reference side = some reference ∧ registry.resolve reference.name = some definition ∧
    IsSample (endpoint.body side) sample ∧ definition.properties.get? property = some text ∧
    Entries.get? sample property = some value

/-- What is found about the property is the problem of the value. -/
theorem exists_value_iff {property text : String} {value : Json} {problem : ValueProblem}
    (shows : Shows registry code endpoint side property text value) :
    (∃ finding ∈ checkEndpoint registry code endpoint,
        finding.problem = .value side property problem) ↔
      checkValue registry (describeText text) value = some problem := by
  obtain ⟨call, reference, definition, sample, first, declared, resolved, isSample, hasText,
    hasValue⟩ := shows
  -- Findings about the endpoint with this problem are those of the one sample that it shows.
  have bySample : (∃ finding ∈ checkEndpoint registry code endpoint,
      finding.problem = .value side property problem) ↔
      ∃ finding ∈ checkSample endpoint.name side registry definition sample,
        finding.problem = .value side property problem := by
    rw [← checkBody_of_isSample resolved isSample, ← declared]
    constructor
    · rintro ⟨finding, member, shown⟩
      have about : finding.problem.side? = some side := by rw [shown, Problem.side?]
      exact ⟨finding, (mem_checkEndpoint_iff first).1 ⟨member, about⟩, shown⟩
    · rintro ⟨finding, member, shown⟩
      exact ⟨finding, ((mem_checkEndpoint_iff first).2 member).1, shown⟩
  rw [bySample, exists_value_of_checkSample_iff]
  constructor
  · rintro ⟨otherText, otherValue, declaredText, foundValue, wrong⟩
    obtain rfl := Option.some.inj (hasText.symm.trans declaredText)
    obtain rfl := Option.some.inj (hasValue.symm.trans foundValue)
    exact wrong
  · exact fun wrong => ⟨text, value, hasText, hasValue, wrong⟩

end Lint

end Accord
