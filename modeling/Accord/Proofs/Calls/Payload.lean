import Accord.Proofs.Calls
import Accord.Proofs.Script.Node
import Accord.Proofs.Script.Scope
import Accord.Proofs.Script.Walk

/-!
# `Accord.Proofs.Calls.Payload`: the type of the body of a call

When a call makes its body of a name (`Sends`), the type of the body is the type that the name
has at the call by the rule of the language. `requestBody_of_sends` says so for every call site,
unless a binding on the way to the type is passed over.

`requestBody_of_copy` is a name that leads through a variable to a parameter, both in front of
an outer variable of the same name as the parameter. `requestBody_of_untyped_parameter` is a
parameter without an annotation: it is passed over, and the outer variable says what is sent.
-/

set_option autoImplicit false

namespace Accord.Calls

open Script (Node Place Role)

/-- The body that the options of a call give. -/
def bodyOf? (call : Node) : Option Node :=
  (call.child? .arguments).bind fun arguments =>
    (valuesOf "body" (optionPairs arguments.namedChildren.tail)).getLast?

/-- A call makes its body of a name. -/
structure Sends (serializer : String) (call : Node) (name : String) where
  body : Node
  callee : Node
  arguments : Node
  payload : Node
  given : bodyOf? call = some body
  isCall : body.kind = .callExpression
  called : body.child? .function = some callee
  isSerializer : Text.unspaced callee.text = serializer
  passed : body.child? .arguments = some arguments
  first : arguments.namedChildren.head? = some payload
  isName : payload.kind = .identifier
  hasName : payload.text = name

variable {serializer name : String} {call : Node}

/-- `bodyType` of such a body is the type that `declaredType?` finds for the name. -/
theorem Sends.bodyType_eq (sends : Sends serializer call name) (above : List Node) :
    bodyType serializer sends.body above =
      (Script.declaredType? name above).bind Node.typeReference := by
  rw [bodyType, if_pos sends.isCall]
  simp only [sends.called, sends.passed, sends.isSerializer, sends.first, Option.bind_eq_bind,
    Option.bind_some, if_true]
  rw [payloadType, sends.isName]
  simp only [sends.hasName]

/-- The type of the body of an endpoint is `bodyType` of the body that the options of the call give.
-/
theorem requestBody_of_siteOf? {names : Names} {basePath source : String} {call : Place}
    {found : CodeEndpoint} {body : Node}
    (h : siteOf? names basePath source call = some (.endpoint found))
    (given : bodyOf? call.node = some body) :
    found.requestBody = bodyType names.serializer body (call.node :: call.above) := by
  obtain ⟨arguments, first, url, called, -, -, -, -, requested, -⟩ := endpoint_of_siteOf? h
  rw [bodyOf?, called, Option.bind_some] at given
  rw [requested, requestType, given, Option.bind_some]

/-- **The body of a call that sends a name** has the type of the name by the rule of the
language: what the innermost binding of the name around the call says. The exception is a call
where a binding on the way has one of the forms of `Script.Node.BindsUnread`, and either says
something about the type or hides an outer binding that is read. -/
theorem requestBody_of_sends {names : Names} {basePath source : String} {call : Place}
    {found : CodeEndpoint} (h : siteOf? names basePath source call = some (.endpoint found))
    (sends : Sends names.serializer call.node name)
    (heeded : ¬Script.PassesOver Script.aliasLimit name (call.node :: call.above)) :
    found.requestBody =
      (Script.scopedType Script.aliasLimit name (call.node :: call.above)).bind
        Node.typeReference := by
  rw [requestBody_of_siteOf? h sends.given, sends.bodyType_eq, Script.declaredType?,
    Script.lookup_eq_scopedType heeded]

/-! ### Two units with a name that is bound twice -/

/-- The annotation with a type. -/
def ascription (type : String) : Node :=
  .mk .typeAscription (some .type) "" ""
    [.leaf .token "" ":", .leaf .typeIdentifier " " type]

/-- The name that something binds, in a role. -/
def boundName (role : Role) (name : String) : Node :=
  .mk .identifier (some role) "" name []

/-- The outer variable. -/
def draftStatement : Node :=
  .mk .lexicalDeclaration none "" ""
    [.leaf .token "" "const",
      .mk .variableDeclarator none " " ""
        [boundName .name "data", ascription "Draft", .leaf .token " " "=",
          .mk .object (some .value) " " "" [.leaf .token "" "\x7b", .leaf .token "" "\x7d"]]]

/-- A variable that is another name for the parameter. -/
def copyDeclarator : Node :=
  .mk .variableDeclarator none " " ""
    [boundName .name "copy", .leaf .token " " "=", .mk .identifier (some .value) " " "data" []]

/-- The statement that declares it. -/
def copyStatement : Node :=
  .mk .lexicalDeclaration none "\n  " "" [.leaf .token "" "const", copyDeclarator]

/-- What makes a body of a name. -/
def serialized (name : String) : Node :=
  .mk .callExpression (some .value) " " ""
    [.mk .memberExpression (some .function) "" ""
        [.leaf .identifier "" "JSON", .leaf .token "" ".",
          .leaf .propertyIdentifier "" "stringify"],
      .mk .arguments (some .arguments) "" ""
        [.leaf .token "" "(", .leaf .identifier "" name, .leaf .token "" ")"]]

/-- The options that send a name. -/
def sendingOptions (name : String) : Node :=
  .mk .object none " " ""
    [.leaf .token "" "\x7b",
      .mk .pair none " " ""
        [.mk .propertyIdentifier (some .key) "" "body" [], .leaf .token "" ":", serialized name],
      .leaf .token " " "\x7d"]

/-- The URL of the call. -/
def sendingUrl : Node :=
  .leaf .string "" "'/a'"

/-- The arguments of the call. -/
def sendingArguments (name : String) : Node :=
  .mk .arguments (some .arguments) "" ""
    [.leaf .token "" "(", sendingUrl, .leaf .token "" ",", sendingOptions name, .leaf .token "" ")"]

/-- The call that sends a name. -/
def sendingCall (name : String) : Node :=
  .mk .callExpression none "" "" [boundName .function "fetch", sendingArguments name]

/-- The statement that consists of the call. -/
def sendingStatement (name : String) : Node :=
  .mk .expressionStatement none "\n  " "" [sendingCall name]

/-- The body of the function around the call. -/
def sendingBlock (locals : List Node) (name : String) : Node :=
  .mk .statementBlock (some .body) " " ""
    (.leaf .token "" "\x7b" :: locals ++ [sendingStatement name, .leaf .token "\n" "\x7d"])

/-- The function around the call: its parameter may have an annotation. -/
def sendingFunction (typing locals : List Node) (name : String) : Node :=
  .mk .functionDeclaration none "\n" ""
    [.leaf .token "" "function", .mk .identifier (some .name) " " "send" [],
      .mk .formalParameters (some .parameters) "" ""
        [.leaf .token "" "(",
          .mk .requiredParameter none "" "" (boundName .pattern "data" :: typing),
          .leaf .token "" ")"],
      sendingBlock locals name]

/-- The tree of a unit with an outer variable and a function that sends a name. -/
def sendingTree (typing locals : List Node) (name : String) : Node :=
  .mk .program none "" "" [draftStatement, sendingFunction typing locals name]

/-- The place of the call. -/
def sendingPlace (typing locals : List Node) (name : String) : Place where
  node := sendingCall name
  above :=
    [sendingStatement name, sendingBlock locals name, sendingFunction typing locals name,
      sendingTree typing locals name]

/-- A unit with an outer variable and a function that sends a name. -/
def sendingUnit (typing locals name : String) : SourceUnit where
  path := "api.ts"
  text := "const data: Draft = \x7b\x7d\nfunction send(data" ++ typing ++ ") \x7b" ++ locals ++
    "\n  fetch('/a', \x7b body: JSON.stringify(" ++ name ++ ") \x7d)\n\x7d"

/-- The endpoint of the call, with the type of its body. -/
def sentEndpoint (requestBody : Option TypeReference) : CodeEndpoint where
  method := "GET"
  path := "a"
  requestBody := requestBody
  responseBody := none
  source := "api.ts"

/-- The type that the name is declared with at the call. -/
def declaredBody (typing locals : List Node) (name : String) : Option TypeReference :=
  (Script.declaredType? name
    (sendingCall name :: (sendingPlace typing locals name).above)).bind Node.typeReference

/-- The call makes its body of the name. -/
def sendsName (name : String) : Sends "JSON.stringify" (sendingCall name) name where
  body := serialized name
  callee := .mk .memberExpression (some .function) "" ""
    [.leaf .identifier "" "JSON", .leaf .token "" ".", .leaf .propertyIdentifier "" "stringify"]
  arguments := .mk .arguments (some .arguments) "" ""
    [.leaf .token "" "(", .leaf .identifier "" name, .leaf .token "" ")"]
  payload := .leaf .identifier "" name
  given := rfl
  isCall := rfl
  called := rfl
  isSerializer := rfl
  passed := rfl
  first := rfl
  isName := rfl
  hasName := String.append_empty

/-- The literal text of `sendingUrl` is its path. -/
theorem literalText_sendingUrl : sendingUrl.literalText = some "/a" := by
  rw [Node.literalText]
  rfl

/-- The annotation with a type refers to this type. -/
theorem typeReference_ascription (type : String) :
    (ascription type).typeReference = some ⟨type, .local, false⟩ := by
  have named : (Node.leaf .typeIdentifier " " type).typeReferenceFrom false =
      some ⟨type, .local, false⟩ := by
    rw [Node.typeReferenceFrom]
    simp [Node.leaf, Node.kind, Node.text, Node.textAll]
  rw [Node.typeReference, Node.typeReferenceFrom]
  exact named

/-- The call site of the call: its body has the type that the name is declared with. -/
theorem siteOf?_sendingPlace (typing locals : List Node) (name : String) :
    siteOf? .standard "" "api.ts" (sendingPlace typing locals name) =
      some (.endpoint (sentEndpoint (declaredBody typing locals name))) := by
  have called : (sendingPlace typing locals name).node.child? .arguments =
      some (sendingArguments name) := rfl
  have given : (sendingArguments name).namedChildren = [sendingUrl, sendingOptions name] := rfl
  rw [declaredBody, ← (sendsName name).bodyType_eq]
  simp only [siteOf?, called, given, List.head?_cons, List.tail_cons, literalText_sendingUrl,
    Option.bind_eq_bind, Option.bind_some]
  rfl

/-- What is extracted from such a unit: the endpoint of its one call. -/
theorem outcome_extract_sending {ε : Type} {typing locals : List Node} {name : String}
    {unit : SourceUnit} (only : (sendingTree typing locals name).walk.filter
      (fun place => isCallOf "fetch" place.node) = [sendingPlace typing locals name])
    (parsed : unit.tree? = some (sendingTree typing locals name)) (named : unit.path = "api.ts") :
    (extract .standard [unit] : Report ε (List CodeEndpoint)).outcome =
      .ok [sentEndpoint (declaredBody typing locals name)] := by
  have found : sites .standard "api.ts" (sendingTree typing locals name) =
      [.endpoint (sentEndpoint (declaredBody typing locals name))] := by
    -- The tree has no string at its top level, so that there is no base path.
    have noBase : (sendingTree typing locals name).basePath = "" := rfl
    rw [sites, noBase]
    exact (congrArg _ only).trans (by rw [List.filterMap_cons, siteOf?_sendingPlace]; rfl)
  rw [extract, SourceUnit.gather, Report.gather_singleton]
  simp only [parsed, find, named, found]
  rfl

/-- The block binds the copy in a form that is read. -/
theorem bindsRead_copy : (sendingBlock [copyStatement] "copy").BindsRead "copy" := by
  have stated : copyStatement ∈ (sendingBlock [copyStatement] "copy").namedChildren := .head _
  have declared : copyDeclarator ∈ copyStatement.statedVariables := .head _
  have binds : copyDeclarator.child? .name = some (boundName .name "copy") := rfl
  exact .variable rfl nofun stated declared binds rfl

/-- The function binds its annotated parameter in a form that is read. -/
theorem bindsRead_data :
    (sendingFunction [ascription "User"] [copyStatement] "copy").BindsRead "data" := by
  have first : ((sendingFunction [ascription "User"] [copyStatement] "copy").parameterList.filterMap
      Node.parameterBinder?).find? (fun binder => binder.target.text == "data") =
        some ⟨boundName .pattern "data", .known (ascription "User")⟩ := rfl
  exact .parameter rfl nofun first

/-- A name that leads through a variable to a parameter has the type of the parameter, not that
of the outer variable. -/
theorem requestBody_of_copy :
    (extract .standard [sendingUnit ": User" "\n  const copy = data" "copy"] :
        Report Empty (List CodeEndpoint)).outcome =
      .ok [sentEndpoint (some ⟨"User", .local, false⟩)] := by
  have parsed : (sendingUnit ": User" "\n  const copy = data" "copy").tree? =
      some (sendingTree [ascription "User"] [copyStatement] "copy") := by decide +kernel
  have only : (sendingTree [ascription "User"] [copyStatement] "copy").walk.filter
      (fun place => isCallOf "fetch" place.node) =
        [sendingPlace [ascription "User"] [copyStatement] "copy"] := by
    rw [Node.walk_eq_places]
    rfl
  -- Both bindings on the way, of `copy` and of `data`, are in a form that is read.
  have heeded : ¬Script.PassesOver Script.aliasLimit "copy" (sendingCall "copy" ::
      (sendingPlace [ascription "User"] [copyStatement] "copy").above) :=
    Script.not_passesOver_sameAs rfl bindsRead_copy (Script.not_passesOver_known rfl bindsRead_data)
  -- The rule goes from `copy` to the parameter `data`, which is nearer than the variable.
  have byRule : Script.scopedType Script.aliasLimit "copy" (sendingCall "copy" ::
      (sendingPlace [ascription "User"] [copyStatement] "copy").above) =
        some (ascription "User") := rfl
  have body : declaredBody [ascription "User"] [copyStatement] "copy" =
      some ⟨"User", .local, false⟩ :=
    calc declaredBody [ascription "User"] [copyStatement] "copy"
      _ = (some (ascription "User")).bind Node.typeReference :=
        (requestBody_of_sends (siteOf?_sendingPlace _ _ "copy") (sendsName "copy") heeded).trans
          (congrArg (Option.bind · Node.typeReference) byRule)
      _ = some ⟨"User", .local, false⟩ := typeReference_ascription "User"
  rw [outcome_extract_sending only parsed rfl, body]

/-- A parameter without an annotation is skipped: the body gets the type of the outer variable,
although the parameter is what is sent and nothing is known about its type. -/
theorem requestBody_of_untyped_parameter :
    (extract .standard [sendingUnit "" "" "data"] : Report Empty (List CodeEndpoint)).outcome =
      .ok [sentEndpoint (some ⟨"Draft", .local, false⟩)] ∧
    (sendingUnit "" "" "data").tree? = some (sendingTree [] [] "data") ∧
    sendingPlace [] [] "data" ∈ (sendingTree [] [] "data").walk ∧
    Script.scopedType Script.aliasLimit "data"
      (sendingCall "data" :: (sendingPlace [] [] "data").above) = none := by
  have parsed : (sendingUnit "" "" "data").tree? = some (sendingTree [] [] "data") := by
    decide +kernel
  have only : (sendingTree [] [] "data").walk.filter (fun place => isCallOf "fetch" place.node) =
      [sendingPlace [] [] "data"] := by
    rw [Node.walk_eq_places]
    rfl
  -- The parameter gives no type, and `lookupWith` goes on to the outer variable.
  have declared : Script.declaredType? "data"
      (sendingCall "data" :: (sendingPlace [] [] "data").above) = some (ascription "Draft") := rfl
  have visited : sendingPlace [] [] "data" ∈ (sendingTree [] [] "data").walk :=
    (List.mem_filter.1 (by rw [only]; exact List.mem_singleton_self _)).1
  refine ⟨?_, parsed, visited, rfl⟩
  rw [outcome_extract_sending only parsed rfl, declaredBody, declared, Option.bind_some,
    typeReference_ascription]

end Accord.Calls
