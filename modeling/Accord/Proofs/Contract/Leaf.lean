import Accord.Contract.Collection
import Accord.Proofs.Report
import Accord.Proofs.Text

/-!
# `Accord.Proofs.Contract.Leaf`: the endpoint of a request without bodies

`Leaf` says of an item of a collection that it is a request with a method, a list of segments
for its path, and no bodies. `outcome_load` computes what a collection that holds only this item
is loaded as: one endpoint, with the method in capitals and the segments joined with slashes.
-/

set_option autoImplicit false

namespace Accord.Contract

/-- A member is absent, or counts as absent. -/
def Lacks (members : List (String × Json)) (name : String) : Prop :=
  ((Entries.get? members name).getD .null).isPresent = false

/-- The path that a list of segments makes: with slashes between them and none at the start. -/
def joinedPath (path : List String) : String :=
  String.ofList (dropSlash ("/".intercalate path).toList)

/-- An item is a request with this method and path, and without bodies. -/
structure Leaf (item : List (String × Json)) (method : String) (path : List String) where
  request : List (String × Json)
  url : List (String × Json)
  /-- The segments of the path, texts or objects that hold a text as their value. -/
  segments : List Json
  noFolder : Entries.get? item "item" = none
  isRequest : Entries.get? item "request" = some (.object request)
  hasMethod : Entries.get? request "method" = some (.string method)
  hasUrl : Entries.get? request "url" = some (.object url)
  hasPath : Entries.get? url "path" = some (.array segments)
  spelled : segments.map segmentText = path
  noRequestBody : Lacks request "body"
  noResponse : Lacks item "response"
  /-- The name is absent, or a text. -/
  named : Lacks item "name" ∨ ∃ name, Entries.get? item "name" = some (.string name)

/-- An item without a list of items is no folder. -/
theorem loadFolder_of_get?_eq_none [Json.Nesting] (item : List (String × Json))
    {members : List (String × Json)}
    (h : Entries.get? members "item" = none) : loadFolder item members = leafEndpoints item := by
  induction members with
  | nil => rw [loadFolder]
  | cons entry rest ih =>
    rw [Entries.get?] at h
    split at h
    · cases h
    · next other => rw [loadFolder, if_neg other, ih h]

/-- Without a body there is none to read. -/
theorem outcome_requestBody [Json.Nesting] {body : Json} (h : body.isPresent = false)
    (name : String) :
    (requestBody body name).outcome = .ok .null := by
  rw [requestBody, h]
  rfl

/-- Without responses there is no example to read. -/
theorem outcome_responseBody [Json.Nesting] {responses : Json} (h : responses.isPresent = false)
    (name : String) :
    (responseBody responses name).outcome = .ok .null := by
  have absent : exampleResponse responses = .ok none := by
    unfold exampleResponse
    rw [h]
    rfl
  rw [responseBody, absent]
  rfl

namespace Leaf

variable {item : List (String × Json)} {method : String} {path : List String}

/-- The path of the request is its segments with slashes between them. -/
theorem pathOf_url (leaf : Leaf item method path) :
    pathOf (.object leaf.url) = .ok (joinedPath path) := by
  have present : (Json.object leaf.url).isPresent = true := by
    cases members : leaf.url with
    | nil => exact nomatch (members ▸ leaf.hasPath)
    | cons => rfl
  rw [pathOf, present, pathOfMembers, leaf.hasPath]
  show Except.ok (String.ofList (dropSlash ("/".intercalate (leaf.segments.map _)).toList)) = _
  rw [leaf.spelled]
  rfl

/-- A method is put into capital letters. -/
theorem methodOf_method (nonempty : method ≠ "") :
    methodOf (.string method) = .ok (Text.upper method) := by
  have present : (Json.string method).isPresent = true := by
    simpa [Json.isPresent] using nonempty
  rw [methodOf, present]
  rfl

/-- What the endpoint is called is a text: the name of the item if it has one that is not empty. -/
theorem exists_name (leaf : Leaf item method path) (fallback : String) :
    ∃ name, (if ((Entries.get? item "name").getD .null).isPresent then
      (Entries.get? item "name").getD .null else .string fallback) = Json.string name := by
  rcases leaf.named with absent | ⟨name, given⟩
  · exact ⟨fallback, by rw [absent]; rfl⟩
  · rw [given]
    split
    · exact ⟨name, rfl⟩
    · exact ⟨fallback, rfl⟩

/-- The endpoint of the request. Its name is that of the item, or else the method and the path. -/
theorem outcome_endpointOf [Json.Nesting] (leaf : Leaf item method path) (nonempty : method ≠ "") :
    ∃ name, (endpointOf item (.object leaf.request)).outcome =
      .ok ⟨name, Text.upper method, joinedPath path, .null, .null⟩ := by
  -- Method and path are read by steps that may fail; here neither does.
  have methodFound : (do methodOf (← member (.object leaf.request) "method")) =
      .ok (Text.upper method) := by
    rw [member, leaf.hasMethod]
    exact methodOf_method nonempty
  have pathFound : (do pathOf (← member (.object leaf.request) "url")) =
      .ok (joinedPath path) := by
    rw [member, leaf.hasUrl]
    exact leaf.pathOf_url
  obtain ⟨name, nameFound⟩ := leaf.exists_name s!"{Text.upper method} {joinedPath path}"
  refine ⟨name, ?_⟩
  simp only [endpointOf, fullRequest, methodFound, pathFound, Report.ofExcept_ok, Report.bind_eq,
    Report.ok_andThen, nameFound]
  simp only [member, Report.ofExcept_ok, Report.ok_andThen]
  rw [Report.outcome_andThen (outcome_requestBody leaf.noRequestBody _),
    Report.outcome_andThen (outcome_responseBody leaf.noResponse _)]
  rfl

/-- A collection that holds only the request is loaded as its endpoint. -/
theorem outcome_load [Json.Nesting] (leaf : Leaf item method path) (nonempty : method ≠ "")
    {collection : List (String × Json)}
    (items : Entries.get? collection "item" = some (.array [.object item])) :
    ∃ name, (load (.object collection)).outcome =
      .ok [⟨name, Text.upper method, joinedPath path, .null, .null⟩] := by
  obtain ⟨name, found⟩ := leaf.outcome_endpointOf nonempty
  have endpoints : (loadItem (.object item)).outcome =
      .ok [⟨name, Text.upper method, joinedPath path, .null, .null⟩] := by
    rw [loadItem, loadFolder_of_get?_eq_none item leaf.noFolder, leafEndpoints, leaf.isRequest]
    simp only [Report.bind_eq]
    rw [Report.outcome_andThen found]
    rfl
  refine ⟨name, ?_⟩
  simp only [load, member, items, Option.getD_some, Report.ofExcept_ok, Report.bind_eq,
    Report.ok_andThen, loadItems, loadAll]
  rw [Report.outcome_andThen endpoints]
  rfl

end Leaf

end Accord.Contract
