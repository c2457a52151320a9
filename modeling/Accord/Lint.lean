import Accord.Lint.Body
import Accord.Lint.Coverage

/-!
# `Accord.Lint`: the comparison of a contract with code

The findings of `lint` are three blocks: those about the bodies of the contract endpoints that
have a match, those about call sites that the contract lacks, and those about contract endpoints
that the code lacks. No finding ends the comparison early.
-/

set_option autoImplicit false

namespace Accord.Lint

/-- The findings about the two bodies of a contract endpoint and its match. -/
def checkMatched (registry : Types.Registry) (endpoint : ContractEndpoint) (found : CodeEndpoint) :
    List Finding :=
  checkBody endpoint.name .request endpoint.requestBody found.requestBody registry ++
    checkBody endpoint.name .response endpoint.responseBody found.responseBody registry

/-- The findings about the bodies of a contract endpoint, if it has a match. -/
def checkEndpoint (registry : Types.Registry) (code : List CodeEndpoint)
    (endpoint : ContractEndpoint) : List Finding :=
  match findMatch code endpoint.method endpoint.path with
  | none => []
  | some found => checkMatched registry endpoint found

/-- The findings about bodies, in the order of the contract. -/
def bodyFindings (contract : List ContractEndpoint) (code : List CodeEndpoint)
    (registry : Types.Registry) : List Finding :=
  contract.flatMap (checkEndpoint registry code)

/-- Every discrepancy between a contract and the code. -/
def lint (contract : List ContractEndpoint) (code : List CodeEndpoint)
    (registry : Types.Registry) : List Finding :=
  bodyFindings contract code registry ++ missingInContract contract code ++
    missingInCode contract code

end Accord.Lint
