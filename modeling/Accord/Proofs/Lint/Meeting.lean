import Accord.Proofs.Calls
import Accord.Proofs.Contract.Address
import Accord.Proofs.Contract.Leaf
import Accord.Proofs.Lint.Coverage
import Accord.Proofs.Route.Segment
import Accord.Proofs.Script.Node
import Accord.Proofs.Script.Template
import Accord.Proofs.Script.Walk
import Accord.Proofs.Url

/-!
# `Accord.Proofs.Lint.Meeting`: a route written in code meets the same route in the contract

`RouteCall` says of a tree that its one call has a template for its URL which writes a route,
each parameter as a slot. `Contract.Leaf` says of an item that its path declares the same route,
each parameter by its name. `lint_of_same_route` runs both through the extraction, the loading
and the comparison. The two meet unless the route starts with a parameter: the normal form keeps
the parameter of the contract, and of the slot in code there is nothing left to keep.

On the side of the code the way follows the URL: its literal text (`literalText_url`), and the
endpoint that the call makes with it, if the URL is accepted (`outcome_extract`). It can only be
refused when the route starts with a parameter: then two slashes stand at its front, and what
follows them is taken for a host.
-/

set_option autoImplicit false

namespace Accord

open Route (Segment StartsFixed declaredPath erasedPath routeItems)
open Script (Node)

namespace Route

/-- A declared route has no slash at its start. -/
theorem dropSlash_declaredPath (segments : List Segment) :
    Contract.dropSlash (declaredPath segments) = declaredPath segments :=
  Contract.dropSlash_intercalate
    (List.forall_mem_map.2 fun segment _ => Segment.isSegment_declared segment)

/-- The segments of a declared route make its path. -/
theorem joinedPath_declared (segments : List Segment) :
    Contract.joinedPath (segments.map fun segment => String.ofList segment.declared) =
      String.ofList (declaredPath segments) := by
  have texts : (segments.map fun segment => String.ofList segment.declared).map String.toList =
      segments.map Segment.declared := by
    rw [List.map_map]
    exact List.map_congr_left fun segment _ => String.toList_ofList
  rw [Contract.joinedPath, String.toList_intercalate, texts]
  exact congrArg String.ofList (dropSlash_declaredPath segments)

end Route

/-! ### The call -/

namespace Calls

/-- A tree without a base path and with one call, whose URL is a template that writes a route and
whose options ask for a method. -/
structure RouteCall (names : Names) (root : Node) (method : String) (segments : List Segment)
    extends SoleCall names root where
  role : Option Script.Role
  gap : String
  parts : List Node
  noBase : root.baseValues = []
  isTemplate : url = .template role gap parts
  writes : Node.templateItems parts = routeItems segments
  asks : AsksFor toSoleCall.pairs method

namespace RouteCall

variable {names : Names} {root : Node} {method : String} {segments : List Segment}
  (call : RouteCall names root method segments)

/-- The endpoint that the call makes. -/
def reached (source : String) : CodeEndpoint :=
  call.toSoleCall.endpoint source (String.ofList (erasedPath segments))

/-- The URL of the call reads as the route with its parameters left out. -/
theorem literalText_url :
    call.url.literalText = some (String.ofList ('/' :: erasedPath segments)) := by
  rw [call.isTemplate, Node.literalText_template, call.writes, Route.filterMap_routeItems]

/-- A tree without a base URL has no path in front of its calls. -/
theorem basePath_eq (call : RouteCall names root method segments) : root.basePath = "" := by
  rw [Node.basePath, call.noBase]
  rfl

/-- The call makes its endpoint, or none when the URL is refused. -/
theorem outcome_extract {ε : Type} {unit : SourceUnit} (parsed : unit.tree? = some root) :
    (extract names [unit] : Report ε (List CodeEndpoint)).outcome =
      .ok (if (Url.split ('/' :: erasedPath segments)).isSome then [call.reached unit.path]
        else []) := by
  have written : (String.ofList ('/' :: erasedPath segments)).toList =
      '/' :: erasedPath segments := String.toList_ofList
  rw [call.toSoleCall.outcome_extract call.literalText_url (by simp) parsed,
    Url.resolve_slash written, call.basePath_eq, written]
  split <;> rfl

/-- The call site has the method of the call in capital letters. -/
theorem method_reached (source : String) : (call.reached source).method = Text.upper method :=
  methodOf_of_asksFor call.asks

end RouteCall

end Calls

namespace Lint

open Calls (RouteCall)

/-! ### The comparison -/

variable {endpoint : ContractEndpoint} {calls : List CodeEndpoint}

/-- Without bodies there is nothing to find about a match. -/
theorem checkEndpoint_of_no_bodies {registry : Types.Registry}
    (request : endpoint.requestBody = .null)
    (response : endpoint.responseBody = .null) : checkEndpoint registry calls endpoint = [] := by
  unfold checkEndpoint
  split
  · rfl
  · rw [checkMatched, request, response]
    rfl

/-- An endpoint without bodies that every call site meets gives nothing to find. -/
theorem lint_of_all_meet {registry : Types.Registry} (request : endpoint.requestBody = .null)
    (response : endpoint.responseBody = .null) (some : calls ≠ [])
    (meet : ∀ call ∈ calls, SameRoute endpoint call) : lint [endpoint] calls registry = [] := by
  obtain ⟨call, member⟩ := List.exists_mem_of_ne_nil calls some
  have covered : uncovered [endpoint] calls = [] := by
    rw [uncovered, List.filter_eq_nil_iff]
    intro call member
    simpa using meet call member
  have called : uncalled [endpoint] calls = [] := by
    rw [uncalled, List.filter_eq_nil_iff]
    simpa using ⟨call, member, meet call member⟩
  rw [lint_eq_blocks, covered, called, List.map_cons, checkEndpoint_of_no_bodies request response]
  rfl

/-- An endpoint without bodies that no call site meets is missing in the code, and every call
site is missing in the contract. -/
theorem lint_of_none_meet {registry : Types.Registry} (request : endpoint.requestBody = .null)
    (response : endpoint.responseBody = .null) (apart : ∀ call ∈ calls, ¬SameRoute endpoint call) :
    lint [endpoint] calls registry = calls.map uncoveredFinding ++ [uncalledFinding endpoint] := by
  have covered : uncovered [endpoint] calls = calls := by
    rw [uncovered, List.filter_eq_self]
    intro call member
    simpa using apart call member
  have called : uncalled [endpoint] calls = [endpoint] := by
    rw [uncalled, List.filter_eq_self]
    simpa using apart
  rw [lint_eq_blocks, covered, called, List.map_cons, checkEndpoint_of_no_bodies request response]
  rfl

/-- **A route in code and in the contract**: the comparison finds nothing when the route is empty or
starts with a fixed segment, and otherwise that the code lacks the endpoint. -/
theorem lint_of_same_route [Json.Nesting] {ε : Type} {names : Calls.Names} {unit : SourceUnit}
    {root : Node}
    {segments : List Segment} {method declaredMethod : String}
    {item collection : List (String × Json)}
    (parsed : unit.tree? = some root) (call : RouteCall names root method segments)
    (leaf : Contract.Leaf item declaredMethod
      (segments.map fun segment => String.ofList segment.declared))
    (items : Entries.get? collection "item" = some (.array [.object item]))
    (nonempty : method ≠ "") (sameMethod : Text.upper declaredMethod = Text.upper method)
    (registry : Types.Registry) :
    ∃ endpoint calls,
      (Contract.load (.object collection)).outcome = .ok [endpoint] ∧
      (Calls.extract names [unit] : Report ε (List CodeEndpoint)).outcome = .ok calls ∧
      (StartsFixed segments → lint [endpoint] calls registry = []) ∧
      (¬StartsFixed segments →
        lint [endpoint] calls registry =
          calls.map uncoveredFinding ++ [uncalledFinding endpoint]) := by
  have declaredNonempty : declaredMethod ≠ "" := fun empty =>
    nonempty (Text.upper_eq_empty_iff.1 (sameMethod ▸ Text.upper_eq_empty_iff.2 empty))
  obtain ⟨name, loaded⟩ := leaf.outcome_load declaredNonempty items
  rw [Route.joinedPath_declared, sameMethod] at loaded
  -- The methods are equal, so the routes decide.
  have route : SameRoute ⟨name, Text.upper method, String.ofList (declaredPath segments), .null,
      .null⟩ (call.reached unit.path) ↔ StartsFixed segments := by
    rw [SameRoute, call.method_reached, and_iff_right rfl]
    exact eq_comm.trans (Route.normalize_declared_eq_erased_iff segments)
  refine ⟨_, _, loaded, call.outcome_extract parsed, fun fixed => ?_, fun parameter => ?_⟩
  · -- The URL is accepted, so the call makes its endpoint.
    rw [if_pos (Url.split_slash_isSome (Route.head?_erasedPath fixed))]
    refine lint_of_all_meet rfl rfl (by simp) fun found member => ?_
    obtain rfl := List.mem_singleton.1 member
    exact route.2 fixed
  · -- Whether the URL is accepted or not, there is no call site that meets the endpoint.
    refine lint_of_none_meet rfl rfl fun found member same => ?_
    split at member
    · obtain rfl := List.mem_singleton.1 member
      exact parameter (route.1 same)
    · cases member

/-! ### A route with a parameter -/

/-- A unit that posts to a route with a parameter. -/
def userUnit : SourceUnit :=
  ⟨"api.ts", "fetch(`/users/$\x7bid\x7d`, \x7bmethod: 'post'\x7d)"⟩

/-- The parts of the template in the unit. -/
def userParts : List Node :=
  [.leaf .stringFragment "" "/users/",
    .mk .templateSubstitution none "" ""
      [.leaf .token "" "$\x7b", .leaf .identifier "" "id", .leaf .token "" "\x7d"]]

/-- The string that names the method. -/
def userMethod : Node :=
  .mk .string (some .value) " " "'post'" []

/-- The member of the options that holds it. -/
def userPair : Node :=
  .mk .pair none "" ""
    [.mk .propertyIdentifier (some .key) "" "method" [], .leaf .token "" ":", userMethod]

/-- The options of the call. -/
def userOptions : Node :=
  .mk .object none " " "" [.leaf .token "" "\x7b", userPair, .leaf .token "" "\x7d"]

/-- The arguments of the call. -/
def userArguments : Node :=
  .mk .arguments (some .arguments) "" ""
    [.leaf .token "" "(", .template none "" userParts, .leaf .token "" ",", userOptions,
      .leaf .token "" ")"]

/-- The call. -/
def userCall : Node :=
  .mk .callExpression none "" ""
    [.mk .identifier (some .function) "" "fetch" [], userArguments]

/-- The statement that the unit consists of. -/
def userStatement : Node :=
  .mk .expressionStatement none "" "" [userCall]

/-- The tree of the unit. -/
def userTree : Node :=
  .mk .program none "" "" [userStatement]

/-- The route. -/
def userRoute : List Segment :=
  [.fixed ['u', 's', 'e', 'r', 's']
      ⟨⟨by decide, by decide⟩, by decide, by simp [Url.isDropped]⟩,
    .parameter ['i', 'd'] ⟨by decide, by decide⟩]

/-- The call in the tree. -/
def userRouteCall : RouteCall .standard userTree "post" userRoute where
  call := ⟨userCall, [userStatement, userTree]⟩
  arguments := userArguments
  url := .template none "" userParts
  others := [userOptions]
  only := by
    rw [Node.walk_eq_places]
    rfl
  called := rfl
  given := rfl
  role := none
  gap := ""
  parts := userParts
  noBase := rfl
  isTemplate := rfl
  writes := by decide
  asks := ⟨userPair, userMethod, '\'', rfl, rfl, rfl, rfl, rfl⟩

/-- The URL in the contract. Its second segment is an object that holds a text. -/
def userUrl : List (String × Json) :=
  [("path", .array [.string "users", .object [("value", .string ":id")]])]

/-- The request in the contract. -/
def userRequest : List (String × Json) :=
  [("method", .string "POST"), ("url", .object userUrl)]

/-- The item that holds the request. -/
def userItem : List (String × Json) :=
  [("name", .string "Change user"), ("request", .object userRequest)]

/-- The collection that holds the item. -/
def userCollection : List (String × Json) :=
  [("item", .array [.object userItem])]

/-- The item declares the route. -/
def userLeaf : Contract.Leaf userItem "POST"
    (userRoute.map fun segment => String.ofList segment.declared) where
  request := userRequest
  url := userUrl
  segments := [.string "users", .object [("value", .string ":id")]]
  noFolder := rfl
  isRequest := rfl
  hasMethod := rfl
  hasUrl := rfl
  hasPath := rfl
  spelled := by decide
  noRequestBody := rfl
  noResponse := rfl
  named := .inr ⟨_, rfl⟩

section Meeting

/-- Room enough for what is read here. -/
local instance meetingNesting : Json.Nesting :=
  ⟨8⟩

/-- The unit and the item meet. -/
theorem lint_userUnit_eq_nil :
    ∃ endpoint calls,
      (Contract.load (.object userCollection)).outcome = .ok [endpoint] ∧
      (Calls.extract .standard [userUnit] : Report Empty (List CodeEndpoint)).outcome =
        .ok calls ∧
      lint [endpoint] calls .empty = [] := by
  have parsed : userUnit.tree? = some userTree := by decide +kernel
  have items : Entries.get? userCollection "item" = some (.array [.object userItem]) := rfl
  obtain ⟨endpoint, calls, loaded, extracted, meet, -⟩ :=
    lint_of_same_route parsed userRouteCall userLeaf items (by decide) (by decide) .empty
  exact ⟨endpoint, calls, loaded, extracted, meet trivial⟩

end Meeting

end Lint

end Accord
