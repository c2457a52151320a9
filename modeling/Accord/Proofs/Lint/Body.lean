import Accord.Lint.Body
import Accord.Proofs.Table

/-!
# `Accord.Proofs.Lint.Body`: what is found about one body

`checkBody` answers by cases: an absent body, a type that is not found, an example without an
object, and an example with one. What is found about an example with an object is what is wrong
with it (`IsSampleProblem`, `mem_checkSample_iff`). `isAbout_of_mem_checkBody` says that
whatever is found names the endpoint and the body; the lemmas `…_eq_nil_iff` say when the three
parts of the comparison with a declared type find nothing.
-/

set_option autoImplicit false

namespace Accord.Lint

open Accord.Types

variable {endpoint : String} {side : Side} {registry : Registry}

/-! ### What findings are about -/

/-- The body that a problem is about, if it is about one. -/
def Problem.side? : Problem → Option Side
  | .missingType side | .missingProperties side .. | .extraProperties side .. | .value side .. =>
    some side
  | .notInContract .. | .notInCode .. => none

/-- A finding about one body of an endpoint. -/
def Finding.IsAbout (endpoint : String) (side : Side) (finding : Finding) : Prop :=
  finding.endpoint = endpoint ∧ finding.problem.side? = some side

/-- The one finding of `checkMissing` is about all names that are missing. -/
theorem mem_checkMissing_iff {expected actual : List String} {finding : Finding} :
    finding ∈ checkMissing endpoint side expected actual ↔ missingNames expected actual ≠ [] ∧
      finding = ⟨endpoint, .missingProperties side (missingNames expected actual) expected⟩ := by
  simp only [checkMissing, List.isEmpty_iff]
  split <;> simp [*]

/-- The one finding of `checkExtra` is about all names that are too many. -/
theorem mem_checkExtra_iff {expected actual : List String} {finding : Finding} :
    finding ∈ checkExtra endpoint side expected actual ↔ missingNames actual expected ≠ [] ∧
      finding = ⟨endpoint, .extraProperties side (missingNames actual expected) expected⟩ := by
  simp only [checkExtra, List.isEmpty_iff]
  split <;> simp [*]

/-- A property is checked by the value that the sample has for it. -/
theorem checkProperty_eq (sample : List (String × Json)) (property : String × String) :
    checkProperty endpoint side registry sample property =
      (Entries.get? sample property.1).bind fun value =>
        (checkValue registry (describeText property.2) value).map fun problem =>
          ⟨endpoint, .value side property.1 problem⟩ := by
  rw [checkProperty]
  cases Entries.get? sample property.1 with
  | none => rfl
  | some value =>
    simp only [Option.bind_eq_bind, Option.bind_some]
    cases checkValue registry (describeText property.2) value <;> rfl

/-- A finding about a property shows the problem of the value that the sample has for it. -/
theorem checkProperty_eq_some_iff {sample : List (String × Json)} {property : String × String}
    {finding : Finding} :
    checkProperty endpoint side registry sample property = some finding ↔
      ∃ value problem, Entries.get? sample property.1 = some value ∧
        checkValue registry (describeText property.2) value = some problem ∧
        finding = ⟨endpoint, .value side property.1 problem⟩ := by
  rw [checkProperty_eq]
  simp only [Option.bind_eq_some_iff, Option.map_eq_some_iff]
  constructor
  · rintro ⟨value, held, problem, wrong, rfl⟩
    exact ⟨value, problem, held, wrong, rfl⟩
  · rintro ⟨value, problem, held, wrong, rfl⟩
    exact ⟨value, held, problem, wrong, rfl⟩

/-- What may be wrong with a sample: it lacks declared names, it has names that are not declared, or
the value under a declared name is wrong. -/
inductive IsSampleProblem (side : Side) (registry : Registry) (definition : Definition)
    (sample : List (String × Json)) : Problem → Prop where
  | missing : missingNames definition.properties.keys (Entries.keys sample) ≠ [] →
      IsSampleProblem side registry definition sample (.missingProperties side
        (missingNames definition.properties.keys (Entries.keys sample))
        definition.properties.keys)
  | extra : missingNames (Entries.keys sample) definition.properties.keys ≠ [] →
      IsSampleProblem side registry definition sample (.extraProperties side
        (missingNames (Entries.keys sample) definition.properties.keys)
        definition.properties.keys)
  | value {property text : String} {value : Json} {problem : ValueProblem} :
      definition.properties.get? property = some text → Entries.get? sample property = some value →
      checkValue registry (describeText text) value = some problem →
      IsSampleProblem side registry definition sample (.value side property problem)

/-- What is found about a sample is what is wrong with it. -/
theorem mem_checkSample_iff {definition : Definition} {sample : List (String × Json)}
    {finding : Finding} :
    finding ∈ checkSample endpoint side registry definition sample ↔
      finding.endpoint = endpoint ∧
        IsSampleProblem side registry definition sample finding.problem := by
  simp only [checkSample, List.mem_append, or_assoc, mem_checkMissing_iff, mem_checkExtra_iff]
  constructor
  · rintro (⟨missing, rfl⟩ | ⟨extra, rfl⟩ | isValue)
    · exact ⟨rfl, .missing missing⟩
    · exact ⟨rfl, .extra extra⟩
    · obtain ⟨property, held, checked⟩ := List.mem_filterMap.1 isValue
      obtain ⟨value, problem, found, wrong, rfl⟩ := checkProperty_eq_some_iff.1 checked
      -- The names of a table differ, so the entry is what is declared under its name.
      have declared := Entries.get?_eq_some_of_mem definition.properties.nodup held
      exact ⟨rfl, .value declared found wrong⟩
  · obtain ⟨name, problem⟩ := finding
    rintro ⟨rfl, missing | extra | ⟨declared, found, wrong⟩⟩
    · exact .inl ⟨missing, rfl⟩
    · exact .inr (.inl ⟨extra, rfl⟩)
    · exact .inr (.inr (List.mem_filterMap.2 ⟨_, Entries.mem_of_get?_eq_some declared,
        checkProperty_eq_some_iff.2 ⟨_, _, found, wrong, rfl⟩⟩))

/-- What is found about a sample names the endpoint and is about that body. -/
theorem isAbout_of_mem_checkSample {definition : Definition} {sample : List (String × Json)}
    {finding : Finding} (h : finding ∈ checkSample endpoint side registry definition sample) :
    finding.IsAbout endpoint side := by
  obtain ⟨name, problem⟩ := finding
  obtain ⟨named, isProblem⟩ := mem_checkSample_iff.1 h
  refine ⟨named, ?_⟩
  cases isProblem <;> rfl

/-- What is found about a body names the endpoint and is about that body. -/
theorem isAbout_of_mem_checkBody {body : Json} {reference : Option TypeReference}
    {finding : Finding} (h : finding ∈ checkBody endpoint side body reference registry) :
    finding.IsAbout endpoint side := by
  unfold checkBody at h
  split at h
  · cases h
  · split at h
    · obtain rfl := List.mem_singleton.1 h
      exact ⟨rfl, rfl⟩
    · split at h
      · cases h
      · exact isAbout_of_mem_checkSample h

/-! ### When nothing is found -/

/-- Nothing is missing when every expected name is there. -/
theorem missingNames_eq_nil_iff {expected actual : List String} :
    missingNames expected actual = [] ↔ ∀ name ∈ expected, name ∈ actual := by
  simp [missingNames, List.filter_eq_nil_iff]

/-- No property is missing when all that are declared are there. -/
theorem checkMissing_eq_nil_iff {expected actual : List String} :
    checkMissing endpoint side expected actual = [] ↔ ∀ name ∈ expected, name ∈ actual := by
  rw [← missingNames_eq_nil_iff]
  simp only [checkMissing, List.isEmpty_iff]
  split <;> simp [*]

/-- No property is too much when all that are there are declared. -/
theorem checkExtra_eq_nil_iff {expected actual : List String} :
    checkExtra endpoint side expected actual = [] ↔ ∀ name ∈ actual, name ∈ expected := by
  rw [← missingNames_eq_nil_iff]
  simp only [checkExtra, List.isEmpty_iff]
  split <;> simp [*]

/-- The values are right when every property that is declared and there has a right value. -/
theorem checkValues_eq_nil_iff {definition : Definition} {sample : List (String × Json)} :
    checkValues endpoint side registry definition sample = [] ↔
      ∀ name text value, definition.properties.get? name = some text →
        Entries.get? sample name = some value →
        checkValue registry (describeText text) value = none := by
  simp only [checkValues, List.filterMap_eq_nil_iff]
  constructor
  · intro h name text value declared held
    have quiet := h (name, text) (Entries.mem_of_get?_eq_some declared)
    cases wrong : checkValue registry (describeText text) value with
    | none => rfl
    | some problem =>
      have loud : checkProperty endpoint side registry sample (name, text) =
          some ⟨endpoint, .value side name problem⟩ :=
        checkProperty_eq_some_iff.2 ⟨value, problem, held, wrong, rfl⟩
      rw [loud] at quiet
      cases quiet
  · intro h property member
    -- The names of a table differ, so an entry of it is what is looked up under its name.
    have declared := Entries.get?_eq_some_of_mem definition.properties.nodup member
    cases found : checkProperty endpoint side registry sample property with
    | none => rfl
    | some finding =>
      obtain ⟨value, problem, held, wrong, -⟩ := checkProperty_eq_some_iff.1 found
      rw [h _ _ _ declared held] at wrong
      cases wrong

/-- Nothing is found about a sample that has exactly the declared properties with right values. -/
theorem checkSample_eq_nil_iff {definition : Definition} {sample : List (String × Json)} :
    checkSample endpoint side registry definition sample = [] ↔
      (∀ name, name ∈ Entries.keys sample ↔ name ∈ definition.properties.keys) ∧
      ∀ name text value, definition.properties.get? name = some text →
        Entries.get? sample name = some value →
        checkValue registry (describeText text) value = none := by
  simp only [checkSample, List.append_eq_nil_iff, checkMissing_eq_nil_iff, checkExtra_eq_nil_iff,
    checkValues_eq_nil_iff]
  constructor
  · rintro ⟨⟨declared, shown⟩, values⟩
    exact ⟨fun name => ⟨shown name, declared name⟩, values⟩
  · rintro ⟨names, values⟩
    exact ⟨⟨fun name => (names name).2, fun name => (names name).1⟩, values⟩

end Accord.Lint
