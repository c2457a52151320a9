import Accord.Contract.Address
import Accord.Endpoint
import Accord.Report
import Accord.Text.Search
import Accord.Text.Upper

/-!
# `Accord.Contract.Collection`: the endpoints of a collection

A collection is a tree of items: folders, which hold a list of items, and requests with example
responses. `load` lists the requests in the order of the document. An item that is neither is
noted and left out; a body that is no JSON text is noted and counts as absent.
-/

set_option autoImplicit false

namespace Accord.Contract

/-- The member of an object under a name, `null` when it is absent. Other values have no members. -/
def member (value : Json) (name : String) : Except Fault Json :=
  match value with
  | .object members => .ok ((Entries.get? members name).getD .null)
  | _ => .error .noMembers

/-- The JSON value of an example body. A text that is no JSON gives nothing. -/
def decodeBody [Json.Nesting] (body : Json) : Except Fault (Option Json) :=
  match body with
  | .string text =>
    match Json.read text with
    | .ok value => .ok (some value)
    | .error fault =>
      -- Text that is no JSON is given up; a text that exceeds a limit of the reader ends the run.
      match Fault.ofReading? fault.cause with
      | some fault => .error fault
      | none => .ok none
  | _ => .error .notText

/-- The decoded body, `null` and a note when it is no JSON text. -/
def bodyOrNote [Json.Nesting] (body : Json) (problem : Event) : Report Fault Json := do
  match ← Report.ofExcept (decodeBody body) with
  | some value => return value
  | none =>
    Report.note problem
    return .null

/-- The example body of a request: the raw text of a body in raw mode. -/
def requestBody [Json.Nesting] (body : Json) (name : String) : Report Fault Json := do
  if !body.isPresent then return .null
  let mode ← Report.ofExcept (member body "mode")
  -- The text is looked up before the mode is known, which only matters for values without members.
  let raw ← Report.ofExcept (member body "raw")
  match mode with
  | .string "raw" =>
    if raw.isPresent then bodyOrNote raw (.requestBodyUnreadable name) else return .null
  | _ => return .null

/-- Whether a response code is one of the two whose example is preferred, 200 and 201. -/
def isPreferredCode : Json → Bool
  | .int code => code == 200 || code == 201
  | .double code => code.toInt? == some 200 || code.toInt? == some 201
  | _ => false

/-- The first response with a preferred code. -/
def preferred? : List Json → Except Fault (Option Json)
  | [] => .ok none
  | response :: rest => do
    let code ← member response "code"
    if isPreferredCode code then return some response else preferred? rest

/-- The response that serves as the example: the first one with a preferred code, or else the first
one. No response gives nothing. -/
def exampleResponse (responses : Json) : Except Fault (Option Json) :=
  if !responses.isPresent then .ok none
  else
    match responses with
    | .array (first :: rest) => do
      match ← preferred? (first :: rest) with
      | some response => return some response
      | none => return some first
    -- Text and objects are gone through as their characters and names, and fail at the first one.
    | .string _ => .error .noMembers
    | .object _ => .error .noFirstElement
    | _ => .error .notIterable

/-- The example body of a response. -/
def responseBody [Json.Nesting] (responses : Json) (name : String) : Report Fault Json := do
  match ← Report.ofExcept (exampleResponse responses) with
  | none =>
    Report.note (.noExampleResponse name)
    return .null
  | some found =>
    let body ← Report.ofExcept (member found "body")
    if body.isPresent then bodyOrNote body (.responseBodyUnreadable name)
    else
      Report.note (.exampleWithoutBody name)
      return .null

/-- A request in full: a text alone is the URL of a request without a method. -/
def fullRequest : Json → Json
  | .string url => .object [("method", .string "GET"), ("url", .string url)]
  | request => request

/-- The method of a request in capitals. -/
def methodOf (method : Json) : Except Fault String :=
  if !method.isPresent then .ok "GET"
  else
    match method with
    | .string text => .ok (Text.upper text)
    | _ => .error .noMembers

/-- The endpoint of an item with a request. -/
def endpointOf [Json.Nesting] (item : List (String × Json)) (request : Json) :
    Report Fault ContractEndpoint := do
  let request := fullRequest request
  let method ← Report.ofExcept (do methodOf (← member request "method"))
  let path ← Report.ofExcept (do pathOf (← member request "url"))
  let given := (Entries.get? item "name").getD .null
  let name := if given.isPresent then given else .string s!"{method} {path}"
  -- The name is not checked before the bodies are read, so their notes come first.
  let requestBody ← requestBody (← Report.ofExcept (member request "body")) name.display
  let responseBody ← responseBody ((Entries.get? item "response").getD .null) name.display
  match name with
  | .string name => return ⟨name, method, path, requestBody, responseBody⟩
  | _ => Report.fail .nameNotText

/-- The endpoint of an item that is no folder. An item without a request is noted. -/
def leafEndpoints [Json.Nesting] (item : List (String × Json)) :
    Report Fault (List ContractEndpoint) :=
  match Entries.get? item "request" with
  | some request => do return [← endpointOf item request]
  | none => do
    let name := (Entries.get? item "name").getD (.string "<unnamed>")
    Report.note (.itemSkipped name.display)
    return []

/-- An item that is a text is no folder and no request, though it may hold their words. -/
def textItem (text : String) : Fault :=
  if Text.holds "item" text || Text.holds "request" text then .notIndexable else .noMembers

/-- The fault of a list of items that are texts: that of the first one. -/
def textItems : List String → Report Fault (List ContractEndpoint)
  | [] => .ok []
  | text :: _ => .fail (textItem text)

/-- Whether a value is a given text. -/
def isText (word : String) : Json → Bool
  | .string text => text == word
  | _ => false

mutual

/-- The endpoints of one item. -/
def loadItem [Json.Nesting] : Json → Report Fault (List ContractEndpoint)
  | .object members => loadFolder members members
  | .array items =>
    if items.any (isText "item") || items.any (isText "request") then .fail .notIndexable
    else .fail .noMembers
  | .string text => .fail (textItem text)
  | _ => .fail .notSearchable

/-- The endpoints of an item that is an object: those of its list of items when it has one. `item`
is the whole object, the second argument the members not yet searched. -/
def loadFolder [Json.Nesting] (item : List (String × Json)) :
    List (String × Json) → Report Fault (List ContractEndpoint)
  | [] => leafEndpoints item
  -- The search stops at the member itself, so that the recursion goes into a part of the object.
  | (name, value) :: rest => if name = "item" then loadItems value else loadFolder item rest

/-- The endpoints of a list of items. An absent list is empty. -/
def loadItems [Json.Nesting] : Json → Report Fault (List ContractEndpoint)
  | .array items => loadAll items
  -- Going through an object is going through its names, each of which is a text.
  | .object members => textItems (Entries.keys members)
  | .string text => textItems (text.toList.map Char.toString)
  | .null => .ok []
  | .bool value => if value then .fail .notIterable else .ok []
  | .int value => if value = 0 then .ok [] else .fail .notIterable
  | .double value => if value.isZero then .ok [] else .fail .notIterable

/-- The endpoints of several items, in order. -/
def loadAll [Json.Nesting] : List Json → Report Fault (List ContractEndpoint)
  | [] => .ok []
  | item :: rest => do
    let endpoints ← loadItem item
    let others ← loadAll rest
    return endpoints ++ others

end

/-- The endpoints of a collection in the order of the document. -/
def load [Json.Nesting] (collection : Json) : Report Fault (List ContractEndpoint) := do
  loadItems (← Report.ofExcept (member collection "item"))

end Accord.Contract
