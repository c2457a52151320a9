import Accord.Proofs.Lint.Order
import Accord.Proofs.Types.Layout

/-!
# `Accord.Proofs.Lint.Layout`: property types in another layout

What a finding says apart from its wording is its verdict: the kind, the sort of the mismatch
and the endpoint. The layout of a property type is in the wording, and it should not be in the
verdict.

Two facts carry this over from texts to comparisons:

* `verdict_checkValue`: texts that can stand for each other (`Types.Interchangeable`) lead to
  one verdict on every value. A text that is no single word accepts nothing but arrays, and for
  arrays the element type counts only when it is known (`KnownElement`);
* `verdict_lint`: so do registries in which such texts stand at the same places.

`lint_of_respaced_units` is about units. It asks for the same array marks, and that is not only
for the proof: `verdict_of_blank_before_mark` has two units of the same tokens with two
verdicts.
-/

set_option autoImplicit false

namespace Accord

open Accord.Types (Registry Definition Descriptor Interchangeable AgreeOnMarks describeText element?
  arrayMark primitiveNames)
open Script (Node IsWord)

namespace Types.Registry

variable {holds : String → String → Prop} {registry other : Registry}

/-- Registries that hold definitions that are alike give the same answers. -/
theorem answersAlike_of_rel (alike : ∀ name, Option.Rel (Definition.Alike holds)
    (registry.get? name) (other.get? name)) : registry.AnswersAlike other where
  contains := fun name => by
    rw [Bool.eq_iff_iff, contains_iff, contains_iff, ← Option.isSome_iff_exists,
      ← Option.isSome_iff_exists, isSome_eq_of_rel (alike name)]
  enumValues? := fun name => by
    have related := alike name
    rw [Registry.enumValues?, Registry.enumValues?]
    generalize registry.get? name = found at related
    generalize other.get? name = found' at related
    cases related with
    | none => rfl
    | @some definition definition' same =>
      simp only [Option.bind_some, same.kind]
      split
      · next isEnum => rw [(same.enumeration isEnum).2]
      · rfl
  resolves := fun name => by
    rw [← Option.not_isSome, ← Option.not_isSome, resolve, resolve, isSome_eq_of_rel (alike _)]

end Types.Registry

namespace Lint

/-! ### Verdicts -/

/-- The verdict on a value: the kind of what is wrong and the sort of the mismatch. -/
def ValueProblem.verdict (problem : ValueProblem) : Kind × Option Mismatch :=
  (problem.kind, problem.mismatch)

/-- The verdict of a finding: its kind, the sort of the mismatch and the endpoint. -/
def Finding.verdict (finding : Finding) : Kind × Option Mismatch × String :=
  (finding.kind, finding.mismatch, finding.endpoint)

/-! ### Values of compound types -/

section Values

variable {registry : Registry} {names : List String} {text other : String}

/-- What is wrong with every value where a type without properties and values is declared. -/
def wrongValue (declared : String) : Json → ValueProblem
  | .array _ => .notArray declared
  | .object _ => .notObject declared
  | scalar => .wrongScalar declared scalar.typeName

/-- The verdict on a wrong value does not show the declared text. -/
theorem verdict_wrongValue (text other : String) (value : Json) :
    (wrongValue text value).verdict = (wrongValue other value).verdict := by
  cases value <;> rfl

/-- A text that is no single word is none of the names of JSON types. -/
theorem typeName_ne_of_not_isWord (compound : ¬IsWord text.toList) (value : Json) :
    value.typeName ≠ text := by
  have words : ∀ name ∈ Json.typeNames, IsWord name.toList := by decide +kernel
  rintro rfl
  exact compound (words _ value.typeName_mem_typeNames)

/-- A compound text that is no array accepts nothing. -/
theorem checkValue_primitive (compound : ¬IsWord text.toList) (value : Json) :
    checkValue registry ⟨.primitive, text⟩ value = some (wrongValue text value) := by
  have notOpen : text ∉ Types.openNames := by
    have words : ∀ name ∈ Types.openNames, IsWord name.toList := by decide +kernel
    exact fun isOpen => compound (words _ isOpen)
  have mismatch := typeName_ne_of_not_isWord compound value
  cases value <;>
    simp_all [checkValue, checkArray, checkObject, checkScalar, wrongValue, Descriptor.declared]

/-- An array type accepts nothing but arrays. -/
theorem checkValue_array (element : String) (value : Json) :
    checkValue registry ⟨.array, element⟩ value =
      match value with
      | .array items => checkArray registry ⟨.array, element⟩ items
      | value => some (wrongValue (element ++ arrayMark) value) := by
  have compound : ¬IsWord (element ++ arrayMark).toList := by
    intro word
    rw [String.toList_append] at word
    have mark := word '[' (List.mem_append_right _ (by decide +kernel))
    revert mark
    decide +kernel
  have mismatch := typeName_ne_of_not_isWord compound value
  cases value <;>
    simp_all [checkValue, checkObject, checkScalar, wrongValue, Descriptor.declared]

/-- Among texts with the same array marks a known element is the same one. -/
theorem eq_of_knownElement {element element' : String}
    (held : ∀ name, registry.contains name = true → name ∈ names)
    (agree : AgreeOnMarks names (element ++ arrayMark) (element' ++ arrayMark))
    (known : KnownElement registry element) : element' = element := by
  have cancel : element' ++ arrayMark = element ++ arrayMark → element' = element := fun same =>
    Option.some.inj (by rw [← Types.element?_append, same, Types.element?_append])
  rcases known with primitive | resolved
  · exact cancel ((agree.behind element (List.mem_append_left _ primitive)).1 rfl)
  · -- What is resolved is the element, or what is before one more mark at its end.
    have declared : (element? element).getD element ∈ names := by
      refine held _ ((Registry.contains_iff _ _).2 ?_)
      rwa [← Option.isSome_iff_exists]
    cases marked : element? element with
    | none =>
      rw [marked] at declared
      exact cancel ((agree.behind element (List.mem_append_right _ declared)).1 rfl)
    | some name =>
      rw [marked] at declared
      obtain rfl := Types.element?_eq_some_iff.1 marked
      exact cancel ((agree.doubled name declared).1 rfl)

/-- Arrays are judged alike by types with the same array marks. -/
theorem verdict_checkArray {element element' : String}
    (held : ∀ name, registry.contains name = true → name ∈ names)
    (agree : AgreeOnMarks names (element ++ arrayMark) (element' ++ arrayMark))
    (items : List Json) :
    (checkArray registry ⟨.array, element⟩ items).map ValueProblem.verdict =
      (checkArray registry ⟨.array, element'⟩ items).map ValueProblem.verdict := by
  -- The items are looked at only when the element type is known, and then there is one type.
  by_cases known : KnownElement registry element
  · rw [eq_of_knownElement held agree known]
  · by_cases known' : KnownElement registry element'
    · rw [eq_of_knownElement held agree.symm known']
    · rw [checkArray_of_unknown known, checkArray_of_unknown known']
      rfl

/-- Values are judged alike by texts that can stand for each other. -/
theorem verdict_checkValue (held : ∀ name, registry.contains name = true → name ∈ names)
    (same : Interchangeable names text other) (value : Json) :
    (checkValue registry (describeText text) value).map ValueProblem.verdict =
      (checkValue registry (describeText other) value).map ValueProblem.verdict := by
  rcases same with rfl | ⟨compound, compound', agree⟩
  · rfl
  rcases Types.describeText_of_not_isWord compound with ⟨element, rfl, array⟩ | ⟨plain, primitive⟩
  · rcases Types.describeText_of_not_isWord compound' with ⟨element', rfl, array'⟩ | ⟨plain', -⟩
    · rw [array, array', checkValue_array, checkValue_array]
      cases value with
      | array items => exact verdict_checkArray held agree items
      | _ => exact congrArg some (verdict_wrongValue _ _ _)
    · -- Only one of the texts ends with an array mark.
      have ends := agree.ends
      rw [plain', Types.element?_append] at ends
      cases ends
  · rcases Types.describeText_of_not_isWord compound' with ⟨element', rfl, -⟩ | ⟨-, primitive'⟩
    · have ends := agree.ends
      rw [plain, Types.element?_append] at ends
      cases ends
    · rw [primitive, primitive', checkValue_primitive compound, checkValue_primitive compound']
      exact congrArg some (verdict_wrongValue _ _ _)

end Values

/-! ### Comparisons -/

/-- The verdict on a property is the verdict on its value. -/
theorem map_verdict_checkProperty (endpoint : String) (side : Side) (registry : Registry)
    (sample : List (String × Json)) (property : String × String) :
    (checkProperty endpoint side registry sample property).map Finding.verdict =
      (Entries.get? sample property.1).bind fun value =>
        ((checkValue registry (describeText property.2) value).map ValueProblem.verdict).map
          fun verdict => (verdict.1, verdict.2, endpoint) := by
  rw [checkProperty_eq, Option.map_bind]
  refine congrArg _ (funext fun value => ?_)
  rw [Function.comp_apply, Option.map_map, Option.map_map]
  rfl

section Comparisons

variable {registry other : Registry} {names : List String}
  (alike : ∀ name, Option.Rel (Definition.Alike (Interchangeable names)) (registry.get? name)
    (other.get? name))
  (held : ∀ name, registry.contains name = true → name ∈ names)

include alike held

/-- The verdict on a property does not depend on the layout of its type. -/
theorem verdict_checkProperty (endpoint : String) (side : Side) (sample : List (String × Json))
    {property property' : String × String}
    (same : property.1 = property'.1 ∧ Interchangeable names property.2 property'.2) :
    (checkProperty endpoint side registry sample property).map Finding.verdict =
      (checkProperty endpoint side other sample property').map Finding.verdict := by
  rw [map_verdict_checkProperty, map_verdict_checkProperty, same.1]
  cases Entries.get? sample property'.1 with
  | none => rfl
  | some value =>
    rw [Option.bind_some, Option.bind_some, verdict_checkValue held same.2 value,
      checkValue_congr (Registry.answersAlike_of_rel alike)]

/-- Two samples are judged alike under definitions that are alike. -/
theorem verdict_checkSample (endpoint : String) (side : Side) (sample : List (String × Json))
    {definition definition' : Definition}
    (same : definition.Alike (Interchangeable names) definition') :
    (checkSample endpoint side registry definition sample).map Finding.verdict =
      (checkSample endpoint side other definition' sample).map Finding.verdict := by
  -- The names of the two definitions are the same, so only the values can differ.
  have values : (checkValues endpoint side registry definition sample).map Finding.verdict =
      (checkValues endpoint side other definition' sample).map Finding.verdict := by
    rw [checkValues, checkValues, List.map_filterMap, List.map_filterMap]
    exact filterMap_eq_filterMap_of_forall₂
      (fun _ _ both => verdict_checkProperty alike held endpoint side sample both) same.properties
  simp only [checkSample, List.map_append, values, same.properties.keys_eq]

/-- Two bodies are judged alike under registries that are alike. -/
theorem verdict_checkBody (endpoint : String) (side : Side) (body : Json)
    (reference : Option TypeReference) :
    (checkBody endpoint side body reference registry).map Finding.verdict =
      (checkBody endpoint side body reference other).map Finding.verdict := by
  have resolved : Option.Rel (Definition.Alike (Interchangeable names))
      (reference.bind fun reference => registry.resolve reference.name)
      (reference.bind fun reference => other.resolve reference.name) := by
    cases reference with
    | none => exact .none
    | some reference => exact alike _
  -- From here on only the two definitions count, and no longer how they were found.
  rw [checkBody.eq_def, checkBody.eq_def]
  generalize (reference.bind fun reference => registry.resolve reference.name) = found at resolved
  generalize (reference.bind fun reference => other.resolve reference.name) = found' at resolved
  split
  · rfl
  · cases resolved with
    | none => rfl
    | some same =>
      cases sample? body with
      | none => rfl
      | some sample => exact verdict_checkSample alike held endpoint side sample same

/-- Registries with property types that can stand for each other lead to the same verdicts. -/
theorem verdict_lint (contract : List ContractEndpoint) (code : List CodeEndpoint) :
    (lint contract code registry).map Finding.verdict =
      (lint contract code other).map Finding.verdict := by
  have endpoint : ∀ endpoint,
      (checkEndpoint registry code endpoint).map Finding.verdict =
        (checkEndpoint other code endpoint).map Finding.verdict := by
    intro endpoint
    rw [checkEndpoint, checkEndpoint]
    split
    · rfl
    · simp only [checkMatched, List.map_append, verdict_checkBody alike held]
  simp only [lint, bodyFindings, List.map_append, List.map_flatMap, endpoint]

end Comparisons

/-! ### Units in another layout -/

/-- A name that the registry of units holds is declared by the units. -/
theorem mem_declaredNames_of_contains {units : List SourceUnit} (built : Types.Built units)
    {name : String} (h : (Types.inheritedRegistry (Types.declaredBy units)).contains name = true) :
    name ∈ Types.declaredNames units := by
  obtain ⟨definition, registered⟩ := (Registry.contains_iff _ _).1 h
  obtain ⟨own, declared, -⟩ := Types.registered_iff.1 registered
  rw [← Types.names_declaredBy built]
  exact List.mem_map.2 ⟨own, Types.mem_of_declarationOf? declared,
    Types.name_of_declarationOf? declared⟩

/-- **The layout of property types does not change a verdict, array marks apart.** Units whose
declarations are the same but for the blanks between the tokens of property types lead to the same
verdicts for every contract and code, if the squashed texts of the types agree on their array
marks; or none of the two has a registry. -/
theorem lint_of_respaced_units {units others : List SourceUnit}
    (respaced : (Types.declarations units).Forall₂
      (Types.RespacedDeclaration fun text other => Script.SameTokens text other ∧
        AgreeOnMarks (Types.declaredNames units) (Text.squash text) (Text.squash other))
      (Types.declarations others)) :
    (∃ fault, (Types.collect units).outcome = .error fault ∧
      (Types.collect others).outcome = .error fault) ∨
    ∃ registry other,
      (Types.collect units).outcome = .ok registry ∧
      (Types.collect others).outcome = .ok other ∧
      ∀ contract code, (lint contract code registry).map Finding.verdict =
        (lint contract code other).map Finding.verdict := by
  -- The layout of property types has no part in whether declarations are told.
  refine Types.outcomes_collect (Types.built_iff_of_respaced respaced) fun built => ?_
  refine verdict_lint (fun name => ?_) fun name => mem_declaredNames_of_contains built
  exact Types.rel_get?_of_respaced
    (fun _ _ both => Types.interchangeable_squash both.1 both.2) (fun _ => .inl rfl) respaced name

/-- An interface with one property. -/
def idsInterface (type : Node) : Node :=
  .interface "" "User" [] [.property "ids" type]

/-- The tree of a unit with the interface. -/
def idsTree (type : Node) : Node :=
  .mk .program none "" "" [idsInterface type]

/-- A unit with the interface. -/
def idsUnit (type : String) : SourceUnit :=
  ⟨"types.ts", "interface User \x7b ids: " ++ type ++ " \x7d"⟩

/-- The annotation of a property is the type behind the colon. -/
theorem annotation?_property {name : String} {type : Node} (named : type.isNamed = true) :
    Types.annotation? (Node.property name type) = some type := by
  have ascribed : (Node.property name type).child? .type =
      some (.mk .typeAscription (some .type) "" "" [.leaf .token "" ":", type]) := rfl
  have colon : (Node.leaf .token "" ":").isNamed = false := rfl
  rw [Types.annotation?, ascribed, Option.bind_some, Node.namedChildren, Node.children]
  simp [colon, named]

/-- Two interfaces of the witness differ in layout when their types do. -/
theorem respaced_idsInterface {respaces : String → String → Prop} {type other : Node}
    (named : type.isNamed = true) (respaced : Types.RespacedType respaces type other) :
    Types.RespacedDeclaration respaces (idsInterface type) (idsInterface other) where
  kind := rfl
  name := rfl
  bases := rfl
  signatures := by
    refine .some (.cons ⟨rfl, ?_⟩ .nil)
    have named' : other.isNamed = true := by rwa [Node.isNamed, respaced.kind]
    rw [annotation?_property named, annotation?_property named']
    exact .some respaced
  target := nofun
  members := nofun

/-- An array of sets of identifiers, with blanks between the brackets. -/
def setsType (gap : String) : Node :=
  .mk .arrayType none " " ""
    [.mk .genericType none "" ""
        [.mk .typeIdentifier (some .name) "" "Set" [],
          .mk .typeArguments none "" ""
            [.leaf .token "" "<", .leaf .typeIdentifier gap "Id", .leaf .token gap ">"]],
      .leaf .token "" "[", .leaf .token "" "]"]

/-- An array of texts, with blanks before its mark. -/
def stringsType (gap : String) : Node :=
  .mk .arrayType none " " ""
    [.leaf .predefinedType "" "string", .leaf .token gap "[", .leaf .token "" "]"]

/-- The two sets have the same tokens. -/
theorem sameTokens_sets : Script.SameTokens (setsType "").text (setsType " ").text := by
  have blank : ∀ c ∈ [' '], Script.isSpace c = true := by decide +kernel
  have argument : Script.Respaced ("Id".toList ++ [] ++ ">[]".toList)
      ("Id".toList ++ [' '] ++ ">[]".toList) :=
    .next (by decide +kernel) nofun blank (by decide +kernel) (.last (by decide +kernel))
  have whole : Script.Respaced ("Set<".toList ++ [] ++ ("Id".toList ++ [] ++ ">[]".toList))
      ("Set<".toList ++ [' '] ++ ("Id".toList ++ [' '] ++ ">[]".toList)) :=
    .next (by decide +kernel) nofun blank (by decide +kernel) argument
  exact whole

/-- The two arrays of texts have the same tokens. -/
theorem sameTokens_strings :
    Script.SameTokens (stringsType "").text (stringsType " ").text := by
  have blank : ∀ c ∈ [' '], Script.isSpace c = true := by decide +kernel
  have whole : Script.Respaced ("string".toList ++ [] ++ "[]".toList)
      ("string".toList ++ [' '] ++ "[]".toList) :=
    .next (by decide +kernel) nofun blank (by decide +kernel) (.last (by decide +kernel))
  exact whole

/-- Sets of identifiers are judged alike in two layouts. -/
theorem verdict_of_sets :
    ∃ registry other,
      (Types.collect [idsUnit "Set<Id>[]"]).outcome = .ok registry ∧
      (Types.collect [idsUnit "Set< Id >[]"]).outcome = .ok other ∧
      ∀ contract code, (lint contract code registry).map Finding.verdict =
        (lint contract code other).map Finding.verdict := by
  have tight : (idsUnit "Set<Id>[]").tree? = some (idsTree (setsType "")) := by decide +kernel
  have loose : (idsUnit "Set< Id >[]").tree? = some (idsTree (setsType " ")) := by decide +kernel
  have declared : Types.declarations [idsUnit "Set<Id>[]"] = [idsInterface (setsType "")] := by
    rw [Types.declarations, Types.nodesOf_singleton tight]
    decide +kernel
  have declared' : Types.declarations [idsUnit "Set< Id >[]"] = [idsInterface (setsType " ")] := by
    rw [Types.declarations, Types.nodesOf_singleton loose]
    decide +kernel
  have names : Types.declaredNames [idsUnit "Set<Id>[]"] = ["User"] := by
    rw [Types.declaredNames, declared]
    rfl
  have agree : AgreeOnMarks ["User"] (Text.squash (setsType "").text)
      (Text.squash (setsType " ").text) := by
    have text : Text.squash (setsType "").text = "Set<Id>[]" := by decide +kernel
    have text' : Text.squash (setsType " ").text = "Set< Id >[]" := by decide +kernel
    rw [text, text']
    exact ⟨by decide +kernel, by decide +kernel, by decide +kernel⟩
  have built : Types.Built [idsUnit "Set<Id>[]"] := by
    rw [Types.built_iff_declarations, declared]
    decide +kernel
  have respaced : (Types.declarations [idsUnit "Set<Id>[]"]).Forall₂
      (Types.RespacedDeclaration fun text other => Script.SameTokens text other ∧
        AgreeOnMarks (Types.declaredNames [idsUnit "Set<Id>[]"]) (Text.squash text)
          (Text.squash other))
      (Types.declarations [idsUnit "Set< Id >[]"]) := by
    rw [declared, declared', names]
    exact .cons (respaced_idsInterface rfl ⟨rfl, fun _ => ⟨sameTokens_sets, agree⟩⟩) .nil
  rcases lint_of_respaced_units respaced with ⟨fault, failed, -⟩ | both
  · rw [Types.outcome_collect_of_built built] at failed
    cases failed
  · exact both

/-- An endpoint whose body shows an array of texts. -/
def addIds : ContractEndpoint :=
  ⟨"Add user", "POST", "users", .object [("ids", .array [.string "a"])], .null⟩

/-- The call that the endpoint meets. -/
def addIdsCall : CodeEndpoint :=
  ⟨"POST", "users", some ⟨"User", .local, false⟩, none, "api.ts"⟩

/-- A blank before an array mark changes the verdict, though the tokens are the same. -/
theorem verdict_of_blank_before_mark :
    ∃ registry other,
      (Types.collect [idsUnit "string[]"]).outcome = .ok registry ∧
      (Types.collect [idsUnit "string []"]).outcome = .ok other ∧
      (Types.declarations [idsUnit "string[]"]).Forall₂
        (Types.RespacedDeclaration Script.SameTokens)
        (Types.declarations [idsUnit "string []"]) ∧
      (lint [addIds] [addIdsCall] registry).map Finding.verdict = [] ∧
      (lint [addIds] [addIdsCall] other).map Finding.verdict =
        [(.referencedTypeNotFound, none, "Add user")] := by
  have tight : (idsUnit "string[]").tree? = some (idsTree (stringsType "")) := by decide +kernel
  have loose : (idsUnit "string []").tree? = some (idsTree (stringsType " ")) := by decide +kernel
  have declared : Types.declarations [idsUnit "string[]"] = [idsInterface (stringsType "")] := by
    rw [Types.declarations, Types.nodesOf_singleton tight]
    decide +kernel
  have declared' : Types.declarations [idsUnit "string []"] = [idsInterface (stringsType " ")] := by
    rw [Types.declarations, Types.nodesOf_singleton loose]
    decide +kernel
  have built : Types.Built [idsUnit "string[]"] := by
    rw [Types.built_iff_declarations, declared]
    decide +kernel
  have built' : Types.Built [idsUnit "string []"] := by
    rw [Types.built_iff_declarations, declared']
    decide +kernel
  -- Both registries are built, and the two comparisons are run.
  refine ⟨_, _, Types.outcome_collect_of_built built, Types.outcome_collect_of_built built', ?_, ?_,
    ?_⟩
  · rw [declared, declared']
    exact .cons (respaced_idsInterface rfl ⟨rfl, fun _ => sameTokens_strings⟩) .nil
  · rw [Types.declaredBy_eq_filterMap_declarations, declared]
    decide +kernel
  · rw [Types.declaredBy_eq_filterMap_declarations, declared']
    decide +kernel

end Lint

end Accord
