import Accord.Endpoint
import Accord.Lint.Value
import Accord.Route

/-!
# `Accord.Lint.Coverage`: which endpoints meet

An endpoint of the contract and one of the code meet when their methods are equal and their
paths have the same normal form. The first call site that a contract endpoint meets is its
match. An endpoint that meets none on the other side is a finding, once for every entry.
-/

set_option autoImplicit false

namespace Accord.Lint

/-- Whether a call site has this method and route. -/
def meets (method path : String) (endpoint : CodeEndpoint) : Bool :=
  endpoint.method == method && Route.normalize endpoint.path == Route.normalize path

/-- The first call site with this method and route. -/
def findMatch (code : List CodeEndpoint) (method path : String) : Option CodeEndpoint :=
  code.find? (meets method path)

/-- The position of the first call site with this method and route. -/
def findMatchIndex (code : List CodeEndpoint) (method path : String) : Option Nat :=
  code.findIdx? (meets method path)

/-- Whether a contract endpoint covers a call site. -/
def covers (endpoint : CodeEndpoint) (contract : ContractEndpoint) : Bool :=
  meets contract.method contract.path endpoint

/-- The findings about call sites that the contract lacks. -/
def missingInContract (contract : List ContractEndpoint) (code : List CodeEndpoint) :
    List Finding :=
  (code.filter fun endpoint => !contract.any (covers endpoint)).map fun endpoint =>
    ⟨s!"{endpoint.method} {endpoint.path}", .notInContract endpoint.method endpoint.path⟩

/-- The findings about contract endpoints that the code lacks. -/
def missingInCode (contract : List ContractEndpoint) (code : List CodeEndpoint) : List Finding :=
  -- Here the first match is looked for, and in `missingInContract` any; both ask whether there is
  -- one.
  (contract.filter fun endpoint => (findMatch code endpoint.method endpoint.path).isNone).map
    fun endpoint =>
      ⟨endpoint.name,
        .notInCode endpoint.method endpoint.path endpoint.requestBody.shape
          endpoint.responseBody.shape⟩

end Accord.Lint
