import Accord.Json.Printer
import Accord.Lint.Finding
import Accord.Types.Registry

/-!
# `Accord.Lint.Value`: example values against declared types

`checkValue` says what is wrong with the value of a property, which is one problem at most. A
property of an enumeration accepts the texts and numbers among its values and leaves the other
values alone, a property of an open type accepts everything, an array of a primitive type has
items of that type only, and an object is accepted where an object type or a declared name
stands.
-/

set_option autoImplicit false

namespace Accord

/-- The type of a value in the words of the declarations. -/
def Json.typeName : Json → String
  | .null => "null"
  | .bool _ => "boolean"
  | .int _ | .double _ => "number"
  | .string _ => "string"
  | .array _ => "array"
  | .object _ => "object"

/-- The words for the types of values, in the order of the alphabet. -/
def Json.typeNames : List String :=
  ["array", "boolean", "null", "number", "object", "string"]

/-- A list of the members of an object with their types; nothing for other values. -/
def Json.shape : Json → String
  | .object members =>
    String.intercalate ", " (members.map fun (name, value) => s!"{name}: {value.typeName}")
  | _ => ""

namespace Lint

open Accord.Types

/-- The types of the items of an array, each named once, in the order of the alphabet. -/
def itemTypes (items : List Json) : List String :=
  Json.typeNames.filter fun name => items.any fun item => item.typeName = name

/-- Checks a value against the values of an enumeration. Only texts and numbers are compared. -/
def checkEnum (allowed : List String) (value : Json) : Option ValueProblem :=
  let candidate := match value with
    | .string text => some text
    | other => other.numberText?
  match candidate with
  -- Null, booleans, arrays and objects have no text to compare and pass.
  | none => none
  | some text =>
    if allowed.contains text then none else some (.notInEnum allowed value.display)

/-- Checks an array against what the property declares. -/
def checkArray (registry : Registry) (declared : Descriptor) (items : List Json) :
    Option ValueProblem :=
  if declared.shape ≠ .array then some (.notArray declared.declared)
  else
    let element := declared.typeName
    if primitiveNames.contains element then
      -- An empty array says nothing about its items.
      if openNames.contains element || items.isEmpty || itemTypes items = [element] then none
      else some (.wrongItems element (itemTypes items))
    -- Looking up drops one array mark, so an element type may have one left.
    else if (registry.resolve element).isNone then some (.unknownElement element)
    else none

/-- Checks an object against what the property declares. -/
def checkObject (registry : Registry) (declared : Descriptor) : Option ValueProblem :=
  if declared.shape = .object then none
  else if declared.shape = .reference && registry.contains declared.typeName then none
  else some (.notObject declared.declared)

/-- Checks a value that is no array and no object against what the property declares. -/
def checkScalar (declared : Descriptor) (value : Json) : Option ValueProblem :=
  if value.typeName = declared.declared then none
  else some (.wrongScalar declared.declared value.typeName)

/-- Checks the value of a property against what the property declares. -/
def checkValue (registry : Registry) (declared : Descriptor) (value : Json) :
    Option ValueProblem :=
  let allowed? :=
    if declared.shape = .reference then registry.enumValues? declared.typeName else none
  match allowed? with
  | some allowed => checkEnum allowed value
  | none =>
    if declared.shape = .primitive && openNames.contains declared.typeName then none
    else
      match value with
      | .array items => checkArray registry declared items
      | .object _ => checkObject registry declared
      | scalar => checkScalar declared scalar

end Lint

end Accord
