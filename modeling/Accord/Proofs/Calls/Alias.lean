import Accord.Proofs.Calls.Payload
import Accord.Proofs.Script.Alias

/-!
# `Accord.Proofs.Calls.Alias`: the body of a call that sends an alias

A call that sends a name whose chain of aliases is not longer than the limit has a body of the
type at the end of the chain (`requestBody_of_leads`). The chain may be empty: the name itself
is annotated. When the type at the end is not read, nothing is known about the body, as
`requestBody_of_rest_parameter` shows for the arguments that a function takes as a list.
-/

set_option autoImplicit false

namespace Accord.Calls

open Script (AliasOf Declaration Leads Node Place GivesType GivesUnreadType)

/-- **The body of a call that sends an alias** has the type at the end of the chain, when the
chain is not too long and the type is read. -/
theorem requestBody_of_leads {names : Names} {basePath source : String} {root : Node} {call : Place}
    {found : CodeEndpoint} {declaration : Declaration}
    (site : siteOf? names basePath source call = some (.endpoint found))
    (visited : call ∈ root.walk)
    (sends : Sends names.serializer call.node declaration.name)
    (inside : declaration.scope <:+ call.above) :
    (∀ length type, Leads root GivesType length declaration type →
      found.requestBody = if length ≤ Script.aliasLimit then type.typeReference else none) ∧
    ∀ length type, Leads root GivesUnreadType length declaration type →
      found.requestBody = none := by
  have around := Node.around_cons_of_mem_walk visited
  -- The chain starts in a scope around the call, and the call itself binds nothing.
  have within : declaration.scope <:+ call.node :: call.above :=
    inside.trans (List.suffix_cons call.node call.above)
  have declared : found.requestBody =
      (Script.declaredType? declaration.name (call.node :: call.above)).bind
        Node.typeReference := by
    rw [requestBody_of_siteOf? site sends.given, sends.bodyType_eq]
  constructor
  · intro length type leads
    rw [declared, Script.declaredType?, Script.lookup_of_leads_type leads _ around within]
    split <;> rfl
  · intro length type leads
    rw [declared, Script.declaredType?, Script.lookup_of_leads_unread leads _ around within]
    rfl

/-! ### A function that takes a list of arguments -/

/-- The parameter that takes all arguments, with its annotation. -/
def restParameter : Node :=
  .mk .requiredParameter none "" ""
    [.mk .restPattern (some .pattern) "" "" [.leaf .token "" "...", .leaf .identifier "" "items"],
      ascription "Users"]

/-- The function around the call. -/
def restFunction : Node :=
  .mk .functionDeclaration none "" ""
    [.leaf .token "" "function", .mk .identifier (some .name) " " "send" [],
      .mk .formalParameters (some .parameters) "" ""
        [.leaf .token "" "(", restParameter, .leaf .token "" ")"],
      sendingBlock [] "items"]

/-- The tree of the unit. -/
def restTree : Node :=
  .mk .program none "" "" [restFunction]

/-- The place of the call. -/
def restPlace : Place :=
  ⟨sendingCall "items", [sendingStatement "items", sendingBlock [] "items", restFunction, restTree]⟩

/-- A unit with a function that sends the list of its arguments. -/
def restUnit : SourceUnit where
  path := "api.ts"
  text := "function send(...items: Users) \x7b\n  fetch('/a', \x7b body: JSON.stringify(items) \x7d)\n\x7d"

/-- What binds the name of the list. -/
def restDeclaration : Declaration :=
  ⟨"items", restFunction, [restTree]⟩

/-- The walk of `restTree` meets one call of `fetch`. -/
theorem filter_restTree :
    restTree.walk.filter (fun place => isCallOf "fetch" place.node) = [restPlace] := by
  rw [Node.walk_eq_places]
  rfl

/-- The one call of the unit. -/
def restCall : SoleCall .standard restTree where
  call := restPlace
  arguments := sendingArguments "items"
  url := sendingUrl
  others := [sendingOptions "items"]
  only := filter_restTree
  called := rfl
  given := rfl

/-- The parameter that takes all arguments has an annotation, and it is the only binding of its
name, but nothing is known about the body. -/
theorem requestBody_of_rest_parameter :
    (extract .standard [restUnit] : Report Empty (List CodeEndpoint)).outcome =
      .ok [sentEndpoint none] ∧
    restUnit.tree? = some restTree ∧ restPlace ∈ restTree.walk ∧
    restDeclaration.scope <:+ restPlace.above ∧ restTree.BindsOnce "items" ∧
    restParameter ∈ restFunction.parameterList ∧
    restParameter.child? .type = some (ascription "Users") ∧
    Script.declaredType? "items" restPlace.above = none := by
  have parsed : restUnit.tree? = some restTree := by decide +kernel
  have visited : restPlace ∈ restTree.walk :=
    (List.mem_filter.1 (by rw [filter_restTree]; exact List.mem_singleton_self _)).1
  -- `BindsOnce` counts the binders along the walk; on this tree the count is computed.
  have once : restTree.BindsOnce "items" := by
    rw [Node.BindsOnce, Node.bindersOf, Node.walk_eq_places]
    rfl
  refine ⟨?_, parsed, visited, ⟨[sendingStatement "items", sendingBlock [] "items"], rfl⟩, once,
    List.mem_of_getElem? (i := 0) rfl, rfl, rfl⟩
  rw [restCall.outcome_extract literalText_sendingUrl (by decide) parsed]
  rfl

end Accord.Calls
