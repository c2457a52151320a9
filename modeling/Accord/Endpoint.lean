import Accord.Json.Basic
import Accord.Types.Definition

/-!
# `Accord.Endpoint`: endpoints as the contract and the code know them

A `ContractEndpoint` is an example request with its response; a `CodeEndpoint` is a call site
with the types that its payloads are declared with.
-/

set_option autoImplicit false

namespace Accord

/-- Where a type name is declared. -/
inductive Origin where
  /-- In scope under its plain name. -/
  | local
  /-- In a module that the name is taken from. -/
  | imported
  deriving DecidableEq, Repr

/-- The word for an origin. -/
def Origin.text : Origin → String
  | .local => "local"
  | .imported => "imported"

/-- A payload type named at a call site. -/
structure TypeReference where
  name : String
  origin : Origin
  isArray : Bool
  deriving DecidableEq, Repr

/-- The text of a reference: the name, with an array mark when it is an array. -/
def TypeReference.text (reference : TypeReference) : String :=
  if reference.isArray then reference.name ++ Types.arrayMark else reference.name

/-- A call site. The path has no leading slash and is in no normal form. -/
structure CodeEndpoint where
  method : String
  path : String
  requestBody : Option TypeReference
  responseBody : Option TypeReference
  /-- The unit that holds the call. -/
  source : String
  deriving DecidableEq, Repr

namespace CodeEndpoint

/-- The name of the request type. -/
def requestBodyType (endpoint : CodeEndpoint) : Option String :=
  endpoint.requestBody.map TypeReference.name

/-- Whether the request body is an array. -/
def isRequestBodyArray (endpoint : CodeEndpoint) : Bool :=
  endpoint.requestBody.any TypeReference.isArray

/-- The name of the response type. -/
def responseBodyType (endpoint : CodeEndpoint) : Option String :=
  endpoint.responseBody.map TypeReference.name

/-- Whether the response body is an array. -/
def isResponseBodyArray (endpoint : CodeEndpoint) : Bool :=
  endpoint.responseBody.any TypeReference.isArray

end CodeEndpoint

/-- An example request and its response. A body that is absent is the value `null`. -/
structure ContractEndpoint where
  name : String
  method : String
  path : String
  requestBody : Json
  responseBody : Json

end Accord
