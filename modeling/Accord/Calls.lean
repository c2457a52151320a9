import Accord.Absent
import Accord.Script.Scope
import Accord.Script.TypeName
import Accord.Script.Walk
import Accord.SourceUnit
import Accord.Text.Quoted
import Accord.Text.Search
import Accord.Text.Upper
import Accord.Url

/-!
# `Accord.Calls`: the endpoints that source units call

A call counts when the text of what it calls holds the name that is looked for and its first
argument has a literal text. The members `method` and `body` of the objects behind the URL say
how it is called; of several the last one counts. The request type is the one that the
serialised value is declared or cast with. The response type is the one that the result is
declared with, or else what the innermost function around the call gives back.
-/

set_option autoImplicit false

namespace Accord.Calls

open Script (Node Place)

/-- The names that calls are recognised by. -/
structure Names where
  /-- What the text of a call has to hold. -/
  call : String
  /-- What makes a body of a value. -/
  serializer : String
  deriving DecidableEq, Repr

/-- The names that are looked for when nothing else is said. -/
def Names.standard : Names :=
  ⟨"fetch", "JSON.stringify"⟩

/-! ### The object behind the URL -/

/-- The members of the objects among the arguments behind the URL. -/
def optionPairs (arguments : List Node) : List Node :=
  ((arguments.filter fun argument => argument.kind = .object).flatMap Node.namedChildren).filter
    fun member => member.kind = .pair

/-- Whether the key of a member is this name, quoted or not. -/
def hasKey (name : String) (pair : Node) : Bool :=
  (pair.child? .key).any fun key => Text.unquote key.text == name

/-- The values of the members with a key. -/
def valuesOf (name : String) (pairs : List Node) : List Node :=
  (pairs.filter (hasKey name)).filterMap fun pair => pair.child? .value

/-- The method that the options ask for. Only a string can name one. -/
def methodOf (pairs : List Node) : String :=
  -- A later method that is no string leaves an earlier one standing.
  match ((valuesOf "method" pairs).filter fun value => value.kind = .string).getLast? with
  | some value => Text.upper (Text.unquote value.text)
  | none => "GET"

/-- The type of the value that a serialiser is given: that of a cast, or that of a name where it is
used. -/
def payloadType (payload : Node) (above : List Node) : Option TypeReference :=
  match payload.kind with
  | .asExpression => payload.castType?.bind Node.typeReference
  | .identifier => (Script.declaredType? payload.text above).bind Node.typeReference
  | _ => none

/-- The type that a body is made from. -/
def bodyType (serializer : String) (body : Node) (above : List Node) : Option TypeReference :=
  if body.kind = .callExpression then do
    let callee ← body.child? .function
    let arguments ← body.child? .arguments
    -- The name may be spread over lines, so blanks do not count.
    if Text.unspaced callee.text = serializer then
      payloadType (← arguments.namedChildren.head?) above
    else none
  else none

/-- The type of the body that the options give. -/
def requestType (serializer : String) (pairs above : List Node) : Option TypeReference :=
  (valuesOf "body" pairs).getLast?.bind fun body => bodyType serializer body above

/-! ### The result of the call -/

/-- The annotation of the variable that a node is the first value of. -/
def initialisedType? (node : Node) (above : List Node) : Option Node :=
  match above with
  | parent :: _ =>
    if parent.kind = .variableDeclarator && node.role = some .value then parent.child? .type
    else none
  | [] => none

/-- The annotation of the variable that a call, waited for or not, is the first value of. -/
def resultType? (call : Place) : Option Node :=
  match call.above with
  | parent :: outer =>
    if parent.kind = .awaitExpression then initialisedType? parent outer
    else initialisedType? call.node call.above
  | [] => none

/-- What the innermost function around a place gives back, by its annotation. -/
def enclosingReturnType? (above : List Node) : Option Node :=
  -- A function without an annotation ends the search.
  (above.find? Node.isFunction).bind fun function => function.child? .returnType

/-- The type of the response of a call. -/
def responseType (call : Place) : Option TypeReference :=
  ((resultType? call).or (enclosingReturnType? call.above)).bind Node.typeReference

/-! ### Call sites -/

/-- A call that counts. -/
inductive Site where
  | endpoint (endpoint : CodeEndpoint)
  /-- The URL is refused. -/
  | malformed (url : String)

/-- Whether a node is a call of the name that is looked for. -/
def isCallOf (name : String) (node : Node) : Bool :=
  node.kind = .callExpression &&
    (node.child? .function).any fun callee => Text.holds name callee.text

/-- The call site of a call, if its first argument has a literal text that is not empty. -/
def siteOf? (names : Names) (basePath source : String) (call : Place) : Option Site := do
  let arguments ← call.node.child? .arguments
  let url ← (← arguments.namedChildren.head?).literalText
  if url.isEmpty then none
  else
    let pairs := optionPairs arguments.namedChildren.tail
    -- Method and types of a refused URL are of no interest.
    match Url.resolve url basePath with
    | none => some (.malformed url)
    | some path =>
      some <| .endpoint
        { method := methodOf pairs
          path := path
          requestBody := requestType names.serializer pairs (call.node :: call.above)
          responseBody := responseType call
          source := source }

/-- The call sites of a tree, in the order of the text; a call before the calls inside it. -/
def sites (names : Names) (source : String) (root : Node) : List Site :=
  (root.walk.filter fun place => isCallOf names.call place.node).filterMap
    (siteOf? names root.basePath source)

/-- The endpoint of a call site. -/
def Site.endpoint? : Site → Option CodeEndpoint
  | .endpoint found => some found
  | .malformed _ => none

/-- The event of a call site that is left out. -/
def Site.event? (source : String) : Site → Option Event
  | .endpoint _ => none
  | .malformed url => some (.malformedUrl url source)

/-- The endpoints that a tree calls, with a note of the calls that are left out. -/
def find {ε : Type} (names : Names) (unit : SourceUnit) (root : Node) :
    Report ε (List CodeEndpoint) :=
  let found := sites names unit.path root
  let endpoints := found.filterMap Site.endpoint?
  ⟨found.filterMap (Site.event? unit.path) ++ [.callsFound endpoints.length unit.path],
    .ok endpoints⟩

/-- The endpoints that units call, unit by unit. -/
def extract {ε : Type} (names : Names) (units : List SourceUnit) : Report ε (List CodeEndpoint) :=
  SourceUnit.gather units (find names)

end Accord.Calls
