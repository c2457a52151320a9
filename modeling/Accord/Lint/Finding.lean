/-!
# `Accord.Lint.Finding`: discrepancies between contract and code

A `Finding` names the endpoint it is about and the problem with all that its wording needs.
Kind, mismatch and wording are functions of the problem.
-/

set_option autoImplicit false

namespace Accord.Lint

/-- The two bodies of an endpoint. -/
inductive Side where
  | request
  | response
  deriving DecidableEq, Repr

/-- The word for a side. -/
def Side.text : Side → String
  | .request => "request"
  | .response => "response"

/-- What is wrong with the value of one property. -/
inductive ValueProblem where
  /-- The value shown is none of the values of the enumeration. -/
  | notInEnum (allowed : List String) (shown : String)
  /-- A value that is no array and no object has another type than the declared one. -/
  | wrongScalar (declared actual : String)
  /-- The value is an array and the declared type is none. -/
  | notArray (declared : String)
  /-- The items of the value have other types than the declared one. -/
  | wrongItems (element : String) (actual : List String)
  /-- The declared element type of an array is not declared anywhere. -/
  | unknownElement (element : String)
  /-- The value is an object and the declared type is none. -/
  | notObject (declared : String)
  deriving DecidableEq, Repr

/-- What is wrong with an endpoint. -/
inductive Problem where
  /-- The body has an example and no declared type. -/
  | missingType (side : Side)
  /-- The example lacks declared properties. -/
  | missingProperties (side : Side) (missing expected : List String)
  /-- The example has properties that are not declared. -/
  | extraProperties (side : Side) (extra expected : List String)
  /-- The value of one property is wrong. -/
  | value (side : Side) (property : String) (problem : ValueProblem)
  /-- No contract endpoint has this method and route. -/
  | notInContract (method path : String)
  /-- No call site has this method and route. The shapes of the example bodies are shown. -/
  | notInCode (method path requestShape responseShape : String)
  deriving DecidableEq, Repr

/-- A discrepancy about an endpoint. -/
structure Finding where
  endpoint : String
  problem : Problem
  deriving DecidableEq, Repr

/-- The kinds of findings. -/
inductive Kind where
  | missingRequestType
  | missingResponseType
  | missingProperty
  | extraProperty
  | invalidEnumValue
  | typeMismatch
  | referencedTypeNotFound
  | endpointMissingInContract
  | endpointMissingInCode
  deriving DecidableEq, Repr

/-- The word for a kind. -/
def Kind.text : Kind → String
  | .missingRequestType => "MissingRequestType"
  | .missingResponseType => "MissingResponseType"
  | .missingProperty => "MissingProperty"
  | .extraProperty => "ExtraProperty"
  | .invalidEnumValue => "InvalidEnumValue"
  | .typeMismatch => "TypeMismatch"
  | .referencedTypeNotFound => "ReferencedTypeNotFound"
  | .endpointMissingInContract => "EndpointMissingInContract"
  | .endpointMissingInCode => "EndpointMissingInCode"

/-- What sort of value a type mismatch is about. -/
inductive Mismatch where
  | scalar
  | array
  | object
  deriving DecidableEq, Repr

/-- The word for a mismatch. -/
def Mismatch.text : Mismatch → String
  | .scalar => "scalar"
  | .array => "array"
  | .object => "object"

/-- The kind of a wrong value. -/
def ValueProblem.kind : ValueProblem → Kind
  | .notInEnum .. => .invalidEnumValue
  | .unknownElement .. => .referencedTypeNotFound
  | _ => .typeMismatch

/-- The sort of a mismatching value. -/
def ValueProblem.mismatch : ValueProblem → Option Mismatch
  | .notInEnum .. | .unknownElement .. => none
  | .wrongScalar .. => some .scalar
  | .notArray .. | .wrongItems .. => some .array
  | .notObject .. => some .object

/-- The names of a list, separated by commas. -/
def listed (names : List String) : String :=
  String.intercalate ", " names

/-- The wording of a wrong value; `place` says where it stands. -/
def ValueProblem.message (place : String) : ValueProblem → String
  | .notInEnum allowed shown =>
    s!"Invalid enum value for property {place}. Expected one of {listed allowed}, but got: {shown}"
  | .wrongScalar declared actual =>
    s!"Type mismatch for property {place}. Expected type: {declared}, Actual type: {actual}"
  | .notArray declared =>
    s!"Type mismatch for property {place}. Expected an array, but got: {declared}"
  | .wrongItems element actual =>
    s!"Type mismatch for array property {place}. Expected an array of {element}, but got: " ++
      s!"an array of " ++ String.intercalate " | " actual
  | .unknownElement element => s!"Referenced type '{element}' not found for property {place}."
  | .notObject declared =>
    s!"Type mismatch for property {place}. Expected an object, but got: {declared}"

namespace Finding

/-- The kind of a finding. -/
def kind (finding : Finding) : Kind :=
  match finding.problem with
  | .missingType .request => .missingRequestType
  | .missingType .response => .missingResponseType
  | .missingProperties .. => .missingProperty
  | .extraProperties .. => .extraProperty
  | .value _ _ problem => problem.kind
  | .notInContract .. => .endpointMissingInContract
  | .notInCode .. => .endpointMissingInCode

/-- The sort of value of a type mismatch. -/
def mismatch (finding : Finding) : Option Mismatch :=
  match finding.problem with
  | .value _ _ problem => problem.mismatch
  | _ => none

/-- The shape of an example body in a wording, introduced by `lead`; nothing for no shape. -/
def shapeClause (lead shape : String) : String :=
  if shape.isEmpty then "" else lead ++ ": \x7b " ++ shape ++ " \x7d"

/-- The wording of a finding. -/
def message (finding : Finding) : String :=
  let endpoint := finding.endpoint
  match finding.problem with
  | .missingType side => s!"No matching {side.text} type definition found for endpoint: {endpoint}"
  | .missingProperties side missing expected =>
    s!"Missing properties in {side.text} body for endpoint {endpoint}: {listed missing}. " ++
      s!"Expected properties: {listed expected}"
  | .extraProperties side extra expected =>
    s!"Extra properties in {side.text} body for endpoint {endpoint}: {listed extra}. " ++
      s!"Expected properties: {listed expected}"
  | .value side property problem =>
    problem.message s!"'{property}' in {side.text} body for endpoint {endpoint}"
  | .notInContract method path =>
    s!"Endpoint found in code but not defined in contract: {method} {path}"
  | .notInCode method path requestShape responseShape =>
    s!"Endpoint defined in contract but not found in code: {method} {path}" ++
      shapeClause " with expected request body" requestShape ++
      shapeClause " and expected response body" responseShape

end Finding

end Accord.Lint
