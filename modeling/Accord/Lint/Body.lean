import Accord.Endpoint
import Accord.Lint.Value

/-!
# `Accord.Lint.Body`: example bodies against declared types

The sample of an example is the object that it is, or the first object in the array that it is.
`checkBody` compares the names in the sample with the declared properties, both ways, and then
the values of the properties that are on both sides. An example without a declared type is one
finding; an example without a sample is none.
-/

set_option autoImplicit false

namespace Accord.Lint

open Accord.Types

/-- The object that is compared with the declared type. -/
def sample? : Json → Option (List (String × Json))
  | .object members => some members
  | .array items =>
    -- Items before the first object are passed over.
    items.findSome? fun
      | .object members => some members
      | _ => none
  | _ => none

/-- The declared names that the sample lacks. -/
def missingNames (expected actual : List String) : List String :=
  expected.filter fun name => !actual.contains name

/-- The finding about names that the sample lacks. -/
def checkMissing (endpoint : String) (side : Side) (expected actual : List String) :
    List Finding :=
  let missing := missingNames expected actual
  if missing.isEmpty then [] else [⟨endpoint, .missingProperties side missing expected⟩]

/-- The finding about names that are not declared. -/
def checkExtra (endpoint : String) (side : Side) (expected actual : List String) : List Finding :=
  let extra := missingNames actual expected
  if extra.isEmpty then [] else [⟨endpoint, .extraProperties side extra expected⟩]

/-- The findings about the values of one declared property. A sample without the property has no
say in it. -/
def checkProperty (endpoint : String) (side : Side) (registry : Registry)
    (sample : List (String × Json)) (property : String × String) : Option Finding := do
  let value ← Entries.get? sample property.1
  let problem ← checkValue registry (describeText property.2) value
  return ⟨endpoint, .value side property.1 problem⟩

/-- The findings about the values in a sample, in the order of the declared properties. -/
def checkValues (endpoint : String) (side : Side) (registry : Registry) (definition : Definition)
    (sample : List (String × Json)) : List Finding :=
  definition.properties.entries.filterMap (checkProperty endpoint side registry sample)

/-- The findings about a sample of a body whose type is known. -/
def checkSample (endpoint : String) (side : Side) (registry : Registry) (definition : Definition)
    (sample : List (String × Json)) : List Finding :=
  let expected := definition.properties.keys
  let actual := Entries.keys sample
  checkMissing endpoint side expected actual ++ checkExtra endpoint side expected actual ++
    checkValues endpoint side registry definition sample

/-- The findings about one example body and the type that the code declares for it. -/
def checkBody (endpoint : String) (side : Side) (body : Json)
    (reference : Option TypeReference) (registry : Registry) : List Finding :=
  match body with
  | .null => []
  | body =>
    match reference.bind fun reference => registry.resolve reference.name with
    -- A call without a declared type and a type that is not found are the same finding.
    | none => [⟨endpoint, .missingType side⟩]
    | some definition =>
      match sample? body with
      | none => []
      | some sample => checkSample endpoint side registry definition sample

end Accord.Lint
