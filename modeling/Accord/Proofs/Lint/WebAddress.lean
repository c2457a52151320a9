import Accord.Proofs.Calls
import Accord.Proofs.Contract.Address
import Accord.Proofs.Lint.Coverage

/-!
# `Accord.Proofs.Lint.WebAddress`: one web address in the contract and in code

A request of the contract and a call in code may both be given the same absolute web address.
`paths_of_web_address` says when the two read the same path in it: unless a query or a fragment
right behind the host holds a slash with a path behind it (`HidesPath`). The base path of the
unit has no part in this. An endpoint and a call site with the same address and method then
meet.

`paths_of_loginAddress` is an address of the other kind.
-/

set_option autoImplicit false

namespace Accord.Lint

open Script (Node Place)
open Url (WebAddress)

/-- **One web address**: the contract declares the path that the code reaches exactly when no
path is hidden in a query or a fragment, and then an endpoint and a call site with the address
and with one method meet. -/
theorem paths_of_web_address [Json.Nesting] (address : WebAddress)
    (accepted : (Url.split address.chars).isSome = true) (basePath : String) :
    (∃ declared reached, Contract.pathOf (.string address.text) = .ok declared ∧
      Url.resolve address.text basePath = some reached ∧
      (declared = reached ↔ ¬address.HidesPath)) ∧
    (¬address.HidesPath →
      ∀ (item : List (String × Json)) (request : Json) (endpoint : ContractEndpoint)
        (names : Calls.Names) (source : String) (call : Place) (found : CodeEndpoint),
        (Contract.endpointOf item request).outcome = .ok endpoint →
        Contract.member (Contract.fullRequest request) "url" = .ok (.string address.text) →
        Calls.siteOf? names basePath source call = some (.endpoint found) →
        Calls.urlText? call.node = some address.text →
        found.method = endpoint.method → SameRoute endpoint found) := by
  have declares := address.pathOf_text
  have reaches := address.resolve_text accepted basePath
  constructor
  · refine ⟨_, _, declares, reaches, ?_⟩
    rw [String.ofList_inj]
    exact address.declaredPath_eq_iff
  · intro shown item request endpoint names source call found loaded hasUrl sited hasText sameMethod
    -- The endpoint has the declared path and the call site the resolved one, whatever else they
    -- have.
    have declared := Contract.pathOf_of_endpointOf loaded hasUrl
    have reached := Calls.resolve_of_siteOf? sited hasText
    rw [declares, address.declaredPath_eq_iff.2 shown] at declared
    rw [reaches] at reached
    have path := (Except.ok.inj declared).symm.trans (Option.some.inj reached)
    exact ⟨sameMethod, by rw [path]⟩

/-! ### A query behind the path -/

/-- An address with a path and a query. -/
def usersAddress : WebAddress where
  scheme := "HTTPS".toList
  authority := "api.io:80".toList
  rest := "/v1/users?next=/login".toList
  isWeb := .inr (by decide)
  hasHost := by decide
  hostEnds := by simp [Url.endsAuthority]
  restStarts := by simp [Url.endsAuthority]
  plain := by simp [Url.isDropped]

/-- A request of the contract with the address. -/
def usersItem : List (String × Json) :=
  [("name", .string "Users"), ("request", .string usersAddress.text)]

/-- The string with the address in code. -/
def usersUrl : Node :=
  .leaf .string "" "'HTTPS://api.io:80/v1/users?next=/login'"

/-- The arguments of a call with the string. -/
def usersArguments : Node :=
  .mk .arguments (some .arguments) "" "" [.leaf .token "" "(", usersUrl, .leaf .token "" ")"]

/-- The call. -/
def usersCall : Place where
  node := .mk .callExpression none "" ""
    [.mk .identifier (some .function) "" "fetch" [], usersArguments]
  above := []

section Meeting

/-- Room enough for what is read here. -/
local instance addressNesting : Json.Nesting :=
  ⟨8⟩

/-- The request and the call meet, though the unit has a base path. -/
theorem sameRoute_usersAddress :
    ∃ endpoint found,
      (Contract.endpointOf usersItem (.string usersAddress.text)).outcome = .ok endpoint ∧
      Calls.siteOf? .standard "/base" "api.ts" usersCall = some (.endpoint found) ∧
      SameRoute endpoint found := by
  have accepted : (Url.split usersAddress.chars).isSome = true := by decide
  -- Nothing stands in front of the first slash, so no query hides the path.
  have shown : ¬usersAddress.HidesPath := by
    rintro ⟨query, c, after, found, some, noSlash, -⟩
    obtain ⟨first, more, rfl⟩ := List.exists_cons_of_ne_nil some
    obtain rfl : '/' = first := (List.cons.inj found).1
    exact noSlash List.mem_cons_self
  have loaded : (Contract.endpointOf usersItem (.string usersAddress.text)).outcome =
      .ok ⟨"Users", "GET", "v1/users", .null, .null⟩ := rfl
  have literal : usersUrl.literalText = some usersAddress.text := by
    rw [Node.literalText]
    rfl
  have called : usersCall.node.child? .arguments = some usersArguments := rfl
  have given : usersArguments.namedChildren.head? = some usersUrl := rfl
  have sited : Calls.siteOf? .standard "/base" "api.ts" usersCall =
      some (.endpoint ⟨"GET", "v1/users", none, none, "api.ts"⟩) := by
    simp only [Calls.siteOf?, called, given, literal, Option.bind_eq_bind, Option.bind_some]
    rfl
  have hasText : Calls.urlText? usersCall.node = some usersAddress.text := by
    simp only [Calls.urlText?, called, given, literal, Option.bind_some]
  exact ⟨_, _, loaded, sited,
    (paths_of_web_address usersAddress accepted "/base").2 shown _ _ _ _ _ _ _ loaded rfl sited
      hasText rfl⟩

end Meeting

/-! ### A query right behind the host -/

/-- An address with a query that holds a slash, and without a path. -/
def loginAddress : WebAddress where
  scheme := "https".toList
  authority := "api.io".toList
  rest := "?next=/login".toList
  isWeb := .inr (by decide)
  hasHost := by decide
  hostEnds := by simp [Url.endsAuthority]
  restStarts := by simp [Url.endsAuthority]
  plain := by simp [Url.isDropped]

/-- The contract takes the end of the query for a path, the code finds none. -/
theorem paths_of_loginAddress :
    Contract.pathOf (.string loginAddress.text) = .ok "login" ∧
    Url.resolve loginAddress.text "" = some "" := by
  decide

end Accord.Lint
