import Accord.Proofs.Lint.Coverage
import Accord.Proofs.Lint.Value

/-!
# `Accord.Proofs.Lint.Clean`: what it means that nothing is found

`lint_eq_nil_iff` says when a comparison finds nothing: the contract and the code cover each
other, and every example body fits the type that the first match of its endpoint declares
(`BodyConforms`). Both directions matter. From left to right, an empty result is never the sign
of a check that was left out; from right to left, a contract that the code keeps to is never
reported.

A property of an enumeration is checked for texts and numbers only. `PlainEnumValues` names the
examples for which this makes no difference.
-/

set_option autoImplicit false

namespace Accord

/-- A text or a number. -/
def Json.IsTextOrNumber : Json → Prop
  | .string _ | .int _ | .double _ => True
  | _ => False

/-- A text and a number are each spelled by some text. -/
theorem Json.IsTextOrNumber.exists_spells {value : Json} (h : value.IsTextOrNumber) :
    ∃ written, value.Spells written := by
  cases value with
  | string written => exact ⟨written, .text⟩
  | int number => exact ⟨_, .number rfl⟩
  | double number =>
    cases whole : number.toInt? with
    | some integer => exact ⟨toString integer, .number (by simp [numberText?, whole])⟩
    | none => exact ⟨number.text "nan" "inf", .number (by simp [numberText?, whole])⟩
  | _ => exact h.elim

namespace Lint

open Accord.Types

variable {registry : Registry} {reference : Option TypeReference} {body : Json}

/-! ### Bodies -/

/-- The object of an example that is compared with a type: the example itself, or the first object
among its items. -/
inductive IsSample : Json → List (String × Json) → Prop where
  | itself {members : List (String × Json)} : IsSample (.object members) members
  | first {before after : List Json} {members : List (String × Json)} :
      (∀ item ∈ before, ∀ others, item ≠ .object others) →
      IsSample (.array (before ++ .object members :: after)) members

/-- The sample that is looked for is the body itself, or the first object of a list. -/
theorem sample?_eq_some_iff {sample : List (String × Json)} :
    sample? body = some sample ↔ IsSample body sample := by
  constructor
  · intro h
    cases body with
    | object members =>
      obtain rfl := Option.some.inj h
      exact .itself
    | array items =>
      obtain ⟨before, item, after, rfl, found, others⟩ := List.findSome?_eq_some_iff.1 h
      cases item with
      | object members =>
        obtain rfl := Option.some.inj found
        refine .first fun item member members same => ?_
        subst same
        exact nomatch others _ member
      | _ => cases found
    | _ => cases h
  · intro h
    cases h with
    | itself => rfl
    | @first before after _ others =>
      refine List.findSome?_eq_some_iff.2 ⟨before, _, after, rfl, rfl, fun item member => ?_⟩
      cases item with
      | object members => exact absurd rfl (others _ member members)
      | _ => rfl

/-- A sample that a definition accepts: it has exactly the properties of the definition, and each of
its values is accepted by the text that is declared for it. -/
structure SampleConforms (registry : Registry) (definition : Definition)
    (sample : List (String × Json)) : Prop where
  names : ∀ name, name ∈ Entries.keys sample ↔ name ∈ definition.properties.keys
  values : ∀ name text value, definition.properties.get? name = some text →
    Entries.get? sample name = some value → Accepts registry text value

/-- An example body that is absent, or that has a declared type which accepts its sample. -/
def BodyConforms (registry : Registry) (body : Json) (reference : Option TypeReference) : Prop :=
  body ≠ .null → ∃ declared definition, reference = some declared ∧
    registry.resolve declared.name = some definition ∧
    ∀ sample, IsSample body sample → SampleConforms registry definition sample

/-- In a sample, the properties of enumerations have texts and numbers only. -/
def PlainSample (registry : Registry) (definition : Definition) (sample : List (String × Json)) :
    Prop :=
  ∀ name text values value, definition.properties.get? name = some text →
    NamesEnum registry text values → Entries.get? sample name = some value → value.IsTextOrNumber

/-- In the sample of an example, the properties of enumerations have texts and numbers only. -/
def PlainEnumValues (registry : Registry) (body : Json) (reference : Option TypeReference) : Prop :=
  ∀ declared definition sample, reference = some declared →
    registry.resolve declared.name = some definition → IsSample body sample →
    PlainSample registry definition sample

/-- Nothing is found about a sample exactly when it conforms. -/
theorem checkSample_eq_nil_iff_conforms {endpoint : String} {side : Side} {definition : Definition}
    {sample : List (String × Json)} (plain : PlainSample registry definition sample) :
    checkSample endpoint side registry definition sample = [] ↔
      SampleConforms registry definition sample := by
  have accepted : ∀ name text value, definition.properties.get? name = some text →
      Entries.get? sample name = some value →
      (checkValue registry (describeText text) value = none ↔ Accepts registry text value) :=
    fun name text value hasText hasValue => checkValue_eq_none_iff fun values names =>
      (plain name text values value hasText names hasValue).exists_spells
  rw [checkSample_eq_nil_iff]
  constructor
  · rintro ⟨names, quiet⟩
    exact ⟨names, fun name text value hasText hasValue =>
      (accepted name text value hasText hasValue).1 (quiet name text value hasText hasValue)⟩
  · rintro ⟨names, values⟩
    exact ⟨names, fun name text value hasText hasValue =>
      (accepted name text value hasText hasValue).2 (values name text value hasText hasValue)⟩

/-- With a type that is found, a body conforms when its sample does. -/
theorem bodyConforms_iff_of_resolve {declared : TypeReference} {definition : Definition}
    (present : body ≠ .null) (resolved : registry.resolve declared.name = some definition) :
    BodyConforms registry body (some declared) ↔
      ∀ sample, IsSample body sample → SampleConforms registry definition sample := by
  constructor
  · intro conforms
    obtain ⟨other, _, same, found, accepted⟩ := conforms present
    obtain rfl := Option.some.inj same
    obtain rfl := Option.some.inj (resolved.symm.trans found)
    exact accepted
  · exact fun accepted _ => ⟨declared, definition, rfl, resolved, accepted⟩

/-- Nothing is found about a body exactly when it conforms. -/
theorem checkBody_eq_nil_iff {endpoint : String} {side : Side}
    (plain : PlainEnumValues registry body reference) :
    checkBody endpoint side body reference registry = [] ↔
      BodyConforms registry body reference := by
  unfold checkBody
  split
  · exact iff_of_true rfl fun present => absurd rfl present
  · next present =>
    split
    -- A type that is not found is a finding, and no body conforms to it.
    · next unresolved =>
      refine iff_of_false (by simp) fun conforms => ?_
      obtain ⟨declared, definition, rfl, resolved, _⟩ := conforms present
      exact nomatch unresolved.symm.trans resolved
    · next definition resolved =>
      obtain ⟨declared, rfl, found⟩ := Option.bind_eq_some_iff.1 resolved
      rw [bodyConforms_iff_of_resolve present found]
      split
      -- Without a sample there is nothing to compare, and conforming asks for nothing.
      · next noSample =>
        refine iff_of_true rfl fun sample isSample => ?_
        exact nomatch noSample.symm.trans (sample?_eq_some_iff.2 isSample)
      · next sample sampled =>
        have isSample := sample?_eq_some_iff.1 sampled
        rw [checkSample_eq_nil_iff_conforms (plain declared definition sample rfl found isSample)]
        constructor
        · intro conforms other isOther
          obtain rfl := Option.some.inj (sampled.symm.trans (sample?_eq_some_iff.2 isOther))
          exact conforms
        · exact fun conforms => conforms sample isSample

/-! ### Comparisons -/

/-- Every call site is covered exactly when none is uncovered. -/
theorem uncovered_eq_nil_iff {contract : List ContractEndpoint} {code : List CodeEndpoint} :
    uncovered contract code = [] ↔
      ∀ call ∈ code, ∃ endpoint ∈ contract, SameRoute endpoint call := by
  simp [uncovered, List.filter_eq_nil_iff]

/-- Every endpoint is called exactly when none is uncalled. -/
theorem uncalled_eq_nil_iff {contract : List ContractEndpoint} {code : List CodeEndpoint} :
    uncalled contract code = [] ↔
      ∀ endpoint ∈ contract, ∃ call ∈ code, SameRoute endpoint call := by
  simp [uncalled, List.filter_eq_nil_iff]

/-- Nothing is found about the bodies of an endpoint when those of its first match accept them. -/
theorem checkEndpoint_eq_nil_iff {code : List CodeEndpoint} {endpoint : ContractEndpoint} :
    checkEndpoint registry code endpoint = [] ↔
      ∀ call, IsFirstMatch code endpoint call →
        checkBody endpoint.name .request endpoint.requestBody call.requestBody registry = [] ∧
          checkBody endpoint.name .response endpoint.responseBody call.responseBody registry =
            [] := by
  unfold checkEndpoint
  split
  · next missing =>
    refine iff_of_true rfl fun call first => ?_
    exact nomatch missing.symm.trans (findMatch_eq_some_iff.2 first)
  · next found matched =>
    rw [checkMatched, List.append_eq_nil_iff]
    constructor
    · intro quiet call first
      obtain rfl := Option.some.inj (matched.symm.trans (findMatch_eq_some_iff.2 first))
      exact quiet
    · exact fun quiet => quiet found (findMatch_eq_some_iff.1 matched)

/-- **A comparison finds nothing** exactly when the contract and the code cover each other and every
example conforms to what the first match declares. -/
theorem lint_eq_nil_iff (contract : List ContractEndpoint) (code : List CodeEndpoint)
    (registry : Registry)
    (plain : ∀ endpoint ∈ contract, ∀ call, IsFirstMatch code endpoint call →
      PlainEnumValues registry endpoint.requestBody call.requestBody ∧
        PlainEnumValues registry endpoint.responseBody call.responseBody) :
    lint contract code registry = [] ↔
      (∀ call ∈ code, ∃ endpoint ∈ contract, SameRoute endpoint call) ∧
      (∀ endpoint ∈ contract, ∃ call ∈ code, SameRoute endpoint call) ∧
      ∀ endpoint ∈ contract, ∀ call, IsFirstMatch code endpoint call →
        BodyConforms registry endpoint.requestBody call.requestBody ∧
          BodyConforms registry endpoint.responseBody call.responseBody := by
  have bodies : (contract.map (checkEndpoint registry code)).flatten = [] ↔
      ∀ endpoint ∈ contract, ∀ call, IsFirstMatch code endpoint call →
        BodyConforms registry endpoint.requestBody call.requestBody ∧
          BodyConforms registry endpoint.responseBody call.responseBody := by
    simp only [List.flatten_eq_nil_iff, List.mem_map, forall_exists_index, and_imp,
      forall_apply_eq_imp_iff₂, checkEndpoint_eq_nil_iff]
    refine forall₂_congr fun endpoint member => forall₂_congr fun call first => ?_
    obtain ⟨request, response⟩ := plain endpoint member call first
    rw [checkBody_eq_nil_iff request, checkBody_eq_nil_iff response]
  -- The three blocks are empty for the three reasons.
  rw [lint_eq_blocks, List.append_eq_nil_iff, List.append_eq_nil_iff, List.map_eq_nil_iff,
    List.map_eq_nil_iff, uncovered_eq_nil_iff, uncalled_eq_nil_iff, bodies]
  constructor
  · rintro ⟨⟨conform, covered⟩, called⟩
    exact ⟨covered, called, conform⟩
  · rintro ⟨covered, called, conform⟩
    exact ⟨⟨conform, covered⟩, called⟩

/-- An endpoint whose example is an array, with its sample behind a `null`. -/
def signUp : ContractEndpoint :=
  ⟨"Sign up", "POST", "/users/:id",
    .array [.null, .object [("role", .string "admin"), ("age", .int 30)]], .null⟩

/-- A call site that the endpoint meets. -/
def signUpCall : CodeEndpoint :=
  ⟨"POST", "users/", some ⟨"User", .local, true⟩, none, "api.ts"⟩

/-- The type of the call site, with a property of an enumeration. -/
def users : Registry :=
  .ofDefinitions
    [⟨"Role", .enumeration, .ofList [("Admin", "admin")], []⟩,
      ⟨"User", .interface, .ofList [("role", "Role"), ("age", "number")], []⟩]

/-- Nothing is found about an example that conforms. -/
theorem lint_signUp_eq_nil : lint [signUp] [signUpCall] users = [] := by
  have same : SameRoute signUp signUpCall := by decide
  have resolved : users.resolve "User" =
      some ⟨"User", .interface, .ofList [("role", "Role"), ("age", "number")], []⟩ := rfl
  have matched : ∀ call, IsFirstMatch [signUpCall] signUp call → call = signUpCall :=
    fun call first => List.mem_singleton.1 first.mem
  -- The body is an object, so it is its own sample.
  have sampled : ∀ sample, IsSample signUp.requestBody sample →
      sample = [("role", .string "admin"), ("age", .int 30)] := fun sample isSample =>
    (Option.some.inj (sample?_eq_some_iff.2 isSample)).symm
  refine (lint_eq_nil_iff [signUp] [signUpCall] users ?plain).2 ⟨?covered, ?called, ?conform⟩
  case covered => simpa using same
  case called => simpa using same
  case plain =>
    rintro endpoint member call first
    obtain rfl := List.mem_singleton.1 member
    obtain rfl := matched call first
    refine ⟨?_, fun declared definition sample noType => nomatch noType⟩
    intro declared definition sample _ _ isSample name text values value _ _ found
    rw [sampled sample isSample] at found
    have held := Entries.mem_of_get?_eq_some found
    simp only [List.mem_cons, Prod.mk.injEq, List.not_mem_nil, or_false] at held
    rcases held with ⟨-, rfl⟩ | ⟨-, rfl⟩
    · trivial
    · trivial
  case conform =>
    rintro endpoint member call first
    obtain rfl := List.mem_singleton.1 member
    obtain rfl := matched call first
    refine ⟨fun _ => ⟨_, _, rfl, resolved, fun sample isSample => ?_⟩,
      fun present => absurd rfl present⟩
    rw [sampled sample isSample]
    refine ⟨fun name => Iff.rfl, fun name text value declared found => ?_⟩
    have held := Entries.mem_of_get?_eq_some found
    simp only [List.mem_cons, Prod.mk.injEq, List.not_mem_nil, or_false] at held
    rcases held with ⟨rfl, rfl⟩ | ⟨rfl, rfl⟩
    · obtain rfl : "Role" = text := Option.some.inj declared
      exact .enumeration ⟨rfl, _, rfl, rfl, rfl⟩ .text (List.mem_singleton.2 rfl)
    · obtain rfl : "number" = text := Option.some.inj declared
      refine .scalar trivial (fun values names => ?_) rfl
      exact nomatch names.1

end Lint

end Accord
