import Accord.Proofs.Contract.Form
import Accord.Proofs.Json.Limit

/-!
# `Accord.Proofs.Contract.Typed`: well-typed collections are loaded, and only bodies are given
up

`Form` says which items are loaded. Here is what they are loaded as: `Reads` lists, leaf by
leaf, the endpoints of a collection and the notes about it. A text that is no JSON costs its
endpoint a body and is noted, and nothing else is noted about a body that is there.

* `rawText?` and `answerText?` are the two texts of a leaf that are read as JSON, `decoded` and
  `undecoded` what each of them comes to.
* `Makes` puts them together for one leaf with a request (`endpointOf_of_forms`), and
  `reads_gather` goes through a list of leaves.
* `WellTyped` speaks only of the types of the members of a collection. `TypedItem.isItem` brings
  it to the form that loading needs.

`load_of_wellTyped` is the result. Only a text that exceeds a limit of the reader could end the
run, and such a text has a long run of digits or many opening brackets (`isBodyText_of_short`).
-/

set_option autoImplicit false

namespace Accord.Contract

/-! ### What a text comes to -/

/-- The value of a text, `null` when there is no text or it is no JSON. -/
def decoded [Json.Nesting] (text? : Option String) : Json :=
  match text?.map Json.read with
  | some (.ok value) => value
  | _ => .null

/-- The note about a text that is no JSON. -/
def undecoded [Json.Nesting] (problem : Event) (text? : Option String) : List Event :=
  match text?.map Json.read with
  | some (.error _) => [problem]
  | _ => []

/-- A text is decoded, or given up and noted. -/
theorem bodyOrNote_of_isBodyText [Json.Nesting] {text : String} (isText : IsBodyText (.string text))
    (problem : Event) :
    bodyOrNote (.string text) problem =
      ⟨undecoded problem (some text), .ok (decoded (some text))⟩ := by
  obtain ⟨_, same, noJson⟩ := isText
  obtain rfl := Json.string.inj same
  simp only [undecoded, decoded, Option.map_some]
  cases found : Json.read text with
  | ok value =>
    simp only [bodyOrNote, decodeBody, found]
    rfl
  | error fault =>
    -- The fault is none that ends the run, so the text is given up.
    have given : decodeBody (.string text) = .ok none := by
      simp only [decodeBody, found, noJson _ found]
    simp only [bodyOrNote, given]
    rfl

/-! ### The request body -/

/-- A text that is not empty. -/
def nonemptyText? : Json → Option String
  | .string text => if text.isEmpty then none else some text
  | _ => none

/-- The raw text of a body in raw mode, if there is one that is not empty. -/
def rawText? : Json → Option String
  | .object members =>
    if isText "raw" (given members "mode") then nonemptyText? (given members "raw") else none
  | _ => none

/-- A value that counts as absent is no text that is not empty. -/
theorem nonemptyText?_of_absent {value : Json} (absent : value.isPresent = false) :
    nonemptyText? value = none := by
  cases value with
  | string text =>
    rw [Json.isPresent, Bool.not_eq_false'] at absent
    rw [nonemptyText?, if_pos absent]
  | _ => rfl

/-- A value that is read as a body and does not count as absent is a text that is not empty. -/
theorem bodyOrNote_of_present [Json.Nesting] {value : Json} (present : value.isPresent = true)
    (isText : IsBodyText value) (problem : Event) :
    ∃ text, nonemptyText? value = some text ∧
      bodyOrNote value problem = ⟨undecoded problem (some text), .ok (decoded (some text))⟩ := by
  obtain ⟨text, rfl, noJson⟩ := isText
  rw [Json.isPresent, Bool.not_eq_true'] at present
  refine ⟨text, ?_, bodyOrNote_of_isBodyText ⟨text, rfl, noJson⟩ problem⟩
  rw [nonemptyText?, present]
  rfl

/-- `isText` asks for one text. -/
theorem isText_iff {word : String} {value : Json} :
    isText word value = true ↔ value = .string word := by
  cases value <;> simp [isText]

/-- The body of a request of that form is its raw text in raw mode, or given up. -/
theorem requestBody_of_isRequestBody [Json.Nesting] {body : Json} (h : IsRequestBody body)
    (name : String) :
    requestBody body name =
      ⟨undecoded (.requestBodyUnreadable name) (rawText? body), .ok (decoded (rawText? body))⟩ := by
  cases present : body.isPresent with
  | false =>
    have noText : rawText? body = none := by
      cases body with
      | object members =>
        rw [Json.isPresent, Bool.not_eq_false', List.isEmpty_iff] at present
        rw [present]
        rfl
      | _ => rfl
    rw [noText, requestBody, present]
    rfl
  | true =>
    cases body with
    | object members =>
      simp only [requestBody, present, Bool.not_true, Bool.false_eq_true, if_false, member_object,
        Report.ofExcept_ok, Report.bind_eq, Report.ok_andThen, rawText?]
      split
      -- Only the mode `raw` asks for the text.
      · next mode =>
        rw [if_pos (isText_iff.2 mode)]
        cases raw : (given members "raw").isPresent with
        | false =>
          rw [nonemptyText?_of_absent raw]
          rfl
        | true =>
          have isText : IsBodyText (given members "raw") := by
            cases h with
            | absent absent => cases present.symm.trans absent
            | otherMode other => exact absurd mode other
            | noText absent => cases raw.symm.trans absent
            | text isText => exact isText
          obtain ⟨text, filled, read⟩ :=
            bodyOrNote_of_present raw isText (.requestBodyUnreadable name)
          rw [filled, if_pos rfl, read]
      · next other =>
        rw [if_neg (other ∘ isText_iff.1)]
        rfl
    | _ =>
      cases h with
      | absent absent => cases present.symm.trans absent

/-! ### The response body -/

/-- Whether a response has a preferred code. -/
def prefers : Json → Bool
  | .object members => isPreferredCode (given members "code")
  | _ => false

/-- The response that serves as the example: the first one with a preferred code, or else the first
one. -/
def example? : Json → Option Json
  | .array (first :: others) => some (((first :: others).find? prefers).getD first)
  | _ => none

/-- The body of a response, if it is a text that is not empty. -/
def bodyText? : Json → Option String
  | .object members => nonemptyText? (given members "body")
  | _ => none

/-- The text of the example response. -/
def answerText? (responses : Json) : Option String :=
  (example? responses).bind bodyText?

/-- The note about the example response: there is none, or it has no body, or one that is no
JSON. -/
def answerNotes [Json.Nesting] (name : String) (responses : Json) : List Event :=
  match example? responses with
  | none => [.noExampleResponse name]
  | some response =>
    match bodyText? response with
    | none => [.exampleWithoutBody name]
    | some text => undecoded (.responseBodyUnreadable name) (some text)

/-- A response with a preferred code is preferred. -/
theorem prefers_of_preferred {response : Json} (h : HasPreferredCode response) :
    prefers response = true := by
  obtain ⟨members, rfl, code⟩ := h
  exact code

/-- A response with another code is not. -/
theorem prefers_of_other {response : Json} (h : HasOtherCode response) :
    prefers response = false := by
  obtain ⟨members, rfl, code⟩ := h
  exact code

/-- The first response with a preferred code is what the search finds. -/
theorem find?_of_isFirstPreferred {response : Json} {responses : List Json}
    (h : IsFirstPreferred response responses) : responses.find? prefers = some response := by
  obtain ⟨before, after, rfl, others, preferred⟩ := h
  refine List.find?_eq_some_iff_append.2 ⟨prefers_of_preferred preferred, before, after, rfl, ?_⟩
  intro earlier member
  rw [prefers_of_other (others earlier member)]
  rfl

/-- Responses of that form have an example that is read, or they count as absent. -/
theorem exampleResponse_of_areResponses [Json.Nesting] {responses : Json}
    (h : AreResponses responses) :
    exampleResponse responses = .ok (example? responses) ∧
      ∀ response, example? responses = some response → IsExample response := by
  cases h with
  | absent absent =>
    have none : example? responses = none := by
      cases responses with
      | array list =>
        rw [Json.isPresent, Bool.not_eq_false', List.isEmpty_iff] at absent
        rw [absent]
        rfl
      | _ => rfl
    rw [none]
    refine ⟨?_, fun _ same => by cases same⟩
    unfold exampleResponse
    rw [absent]
    rfl
  -- The search finds the response, and the fallback to the first is not taken.
  | @preferred list response first isExample =>
    obtain ⟨head, others, rfl⟩ : ∃ head others, list = head :: others := by
      obtain ⟨before, after, rfl, -⟩ := first
      cases before <;> exact ⟨_, _, rfl⟩
    have found := find?_of_isFirstPreferred first
    rw [exampleResponse_cons, preferred?_eq_some_iff.2 first, example?, found]
    refine ⟨rfl, fun other same => ?_⟩
    obtain rfl := Option.some.inj same
    exact isExample
  -- No code is preferred, so the first response stands in.
  | @first response others codes isExample =>
    have found : (response :: others).find? prefers = none := by
      refine List.find?_eq_none.2 fun each member => ?_
      rw [prefers_of_other (codes each member)]
      exact Bool.false_ne_true
    rw [exampleResponse_cons, preferred?_eq_none_iff.2 codes, example?, found]
    refine ⟨rfl, fun other same => ?_⟩
    obtain rfl := Option.some.inj same
    exact isExample

/-- The body of the response is the text of the example, or given up. -/
theorem responseBody_of_areResponses [Json.Nesting] {responses : Json} (h : AreResponses responses)
    (name : String) :
    responseBody responses name =
      ⟨answerNotes name responses, .ok (decoded (answerText? responses))⟩ := by
  obtain ⟨found, isExample⟩ := exampleResponse_of_areResponses h
  rw [responseBody, found, answerNotes, answerText?]
  cases chosen : example? responses with
  | none => rfl
  | some response =>
    obtain ⟨members, rfl, body⟩ := isExample response chosen
    simp only [Report.ofExcept_ok, Report.bind_eq, Report.ok_andThen, member_object,
      Option.bind_some, bodyText?]
    cases present : (given members "body").isPresent with
    | false =>
      rw [nonemptyText?_of_absent present]
      rfl
    | true =>
      have isText : IsBodyText (given members "body") :=
        body.resolve_left fun absent => by cases present.symm.trans absent
      obtain ⟨text, filled, read⟩ :=
        bodyOrNote_of_present present isText (.responseBodyUnreadable name)
      rw [filled, if_pos rfl, read]

/-! ### Leaves -/

/-- The body that a request gives. A text alone gives none. -/
def sentBody : Json → Json
  | .object members => given members "body"
  | _ => .null

/-- What a leaf with a request comes to: an endpoint with the values of its two texts, and the notes
about them. -/
structure Makes [Json.Nesting] (leaf : List (String × Json)) (request : Json)
    (endpoint : ContractEndpoint)
    (notes : List Event) : Prop where
  isRead : IsReadAs (leaf, request) endpoint
  requestBody : endpoint.requestBody = decoded (rawText? (sentBody request))
  responseBody : endpoint.responseBody = decoded (answerText? (given leaf "response"))
  noted : notes =
    undecoded (.requestBodyUnreadable endpoint.name) (rawText? (sentBody request)) ++
      answerNotes endpoint.name (given leaf "response")

/-- What some leaves come to, one after the other: an endpoint for every leaf with a request, and a
note for every other leaf. -/
inductive Reads [Json.Nesting] :
    List (List (String × Json)) → List ContractEndpoint → List Event → Prop where
  | nil : Reads [] [] []
  | request {leaf : List (String × Json)} {request : Json} {endpoint : ContractEndpoint}
      {leaves : List (List (String × Json))} {endpoints : List ContractEndpoint}
      {own notes : List Event} (found : Entries.get? leaf "request" = some request)
      (makes : Makes leaf request endpoint own) (rest : Reads leaves endpoints notes) :
      Reads (leaf :: leaves) (endpoint :: endpoints) (own ++ notes)
  | skipped {leaf : List (String × Json)} {leaves : List (List (String × Json))}
      {endpoints : List ContractEndpoint} {notes : List Event}
      (noRequest : Entries.get? leaf "request" = none) (rest : Reads leaves endpoints notes) :
      Reads (leaf :: leaves) endpoints
        (.itemSkipped ((Entries.get? leaf "name").getD (.string "<unnamed>")).display :: notes)

/-- There are as many endpoints as leaves with a request, each one read from its leaf. -/
theorem Reads.read [Json.Nesting] {leaves : List (List (String × Json))}
    {endpoints : List ContractEndpoint}
    {notes : List Event} (h : Reads leaves endpoints notes) :
    List.Forall₂ IsReadAs (requests leaves) endpoints := by
  induction h with
  | nil => exact .nil
  | request found makes rest ih =>
    rw [requests, List.filterMap_cons_some (by rw [found]; rfl)]
    exact .cons makes.isRead ih
  | skipped noRequest rest ih =>
    rw [requests, List.filterMap_cons_none (by rw [noRequest]; rfl)]
    exact ih

/-- A leaf is an object without `item`. -/
theorem leafMembers?_eq_some_iff {item : Json} {leaf : List (String × Json)} :
    leafMembers? item = some leaf ↔
      item = .object leaf ∧ Entries.get? leaf "item" = none := by
  cases item with
  | object members =>
    simp only [leafMembers?, Option.isNone_iff_eq_none, Option.ite_none_right_eq_some,
      Option.some.injEq, Json.object.injEq]
    constructor
    · rintro ⟨absent, rfl⟩
      exact ⟨rfl, absent⟩
    · rintro ⟨rfl, absent⟩
      exact ⟨absent, rfl⟩
  | _ => simp [leafMembers?]

/-- A request of its form, with responses and a name of theirs, makes an endpoint. -/
theorem endpointOf_of_forms [Json.Nesting] {leaf : List (String × Json)} {request : Json}
    (isRequest : IsRequest request) (responses : AreResponses (given leaf "response"))
    (named : IsOptionalText (given leaf "name")) :
    ∃ endpoint notes, endpointOf leaf request = ⟨notes, .ok endpoint⟩ ∧
      Makes leaf request endpoint notes := by
  obtain ⟨members, full, sameBody, method, url, body⟩ :
      ∃ members, fullRequest request = .object members ∧
        given members "body" = sentBody request ∧ IsOptionalText (given members "method") ∧
        IsUrl (given members "url") ∧ IsRequestBody (given members "body") := by
    cases isRequest with
    | url => exact ⟨_, rfl, rfl, .inr ⟨_, rfl⟩, .text, .absent rfl⟩
    | full method url body => exact ⟨_, rfl, rfl, method, url, body⟩
  -- Method, path and name are read, because their forms are what reading them needs.
  obtain ⟨method, methodFound⟩ := (exists_methodOf_iff _).2 method
  obtain ⟨path, pathFound⟩ := (exists_pathOf_iff _).2 url
  obtain ⟨name, nameFound⟩ := (exists_nameOr_iff leaf s!"{method} {path}").2 named
  have ended : endpointOf leaf request =
      ⟨undecoded (.requestBodyUnreadable name) (rawText? (sentBody request)) ++
          answerNotes name (given leaf "response"),
        .ok ⟨name, method, path, decoded (rawText? (sentBody request)),
          decoded (answerText? (given leaf "response"))⟩⟩ := by
    rw [endpointOf_eq leaf full, methodFound, pathFound]
    simp only [Report.ofExcept_ok, Report.ok_andThen, withBodies, nameFound, Json.display]
    rw [requestBody_of_isRequestBody body, responseBody_of_areResponses responses, sameBody]
    simp only [Report.andThen, namedEndpoint, Report.ok, List.append_nil]
  exact ⟨_, _, ended, congrArg Report.outcome ended, rfl, rfl, rfl⟩

/-- A leaf of an item of that form makes an endpoint when it has a request, and a note otherwise. -/
theorem leafEndpoints_of_isItem [Json.Nesting] {item : Json} {leaf : List (String × Json)}
    (kind : leafMembers? item = some leaf) (form : IsItem item) :
    ∃ endpoints notes, leafEndpoints leaf = ⟨notes, .ok endpoints⟩ ∧
      ∀ leaves more others, Reads leaves more others →
        Reads (leaf :: leaves) (endpoints ++ more) (notes ++ others) := by
  obtain ⟨rfl, noFolder⟩ := leafMembers?_eq_some_iff.1 kind
  cases held : Entries.get? leaf "request" with
  | none =>
    refine ⟨[], [.itemSkipped ((Entries.get? leaf "name").getD (.string "<unnamed>")).display], ?_,
      fun leaves more others reads => .skipped held reads⟩
    rw [leafEndpoints, held]
    rfl
  | some request =>
    obtain ⟨isRequest, responses, named⟩ := (isItem_leaf_iff noFolder).1 form request held
    obtain ⟨endpoint, own, made, makes⟩ := endpointOf_of_forms isRequest responses named
    refine ⟨[endpoint], own, ?_, fun leaves more others reads => .request held makes reads⟩
    have alone : leafEndpoints leaf =
        (endpointOf leaf request).andThen fun endpoint => .ok [endpoint] := by
      rw [leafEndpoints, held]
      rfl
    rw [alone, made]
    simp only [Report.andThen, Report.ok, List.append_nil]

/-- Going through items of that form that are no folders reads the leaves among them. -/
theorem reads_gather [Json.Nesting] {items : List Json}
    (noFolders : ∀ item ∈ items, folderItems? item = none)
    (forms : ∀ item ∈ items, IsItem item) :
    ∃ endpoints notes, Report.gather loadItem items = ⟨notes, .ok endpoints⟩ ∧
      Reads (items.filterMap leafMembers?) endpoints notes := by
  induction items with
  | nil => exact ⟨[], [], rfl, .nil⟩
  | cons item rest ih =>
    obtain ⟨noFolder, noFolders⟩ := List.forall_mem_cons.1 noFolders
    obtain ⟨form, forms⟩ := List.forall_mem_cons.1 forms
    obtain ⟨endpoints, notes, ended, reads⟩ := ih noFolders forms
    rw [Report.gather_cons]
    cases kind : leafMembers? item with
    | none =>
      obtain ⟨found, loaded⟩ := (succeeds_loadItem_iff item).2 form
      rw [List.filterMap_cons_none kind, loadItem_of_neither noFolder kind loaded, ended]
      exact ⟨endpoints, notes, by simp [Report.andThen, Report.ok], reads⟩
    | some leaf =>
      obtain ⟨own, ownNotes, made, makes⟩ := leafEndpoints_of_isItem kind form
      rw [List.filterMap_cons_some kind, loadItem_of_leaf kind, made, ended]
      refine ⟨own ++ endpoints, ownNotes ++ notes, ?_, makes _ _ _ reads⟩
      simp only [Report.andThen, Report.ok, List.append_nil]

/-- What remains of an item of that form is of that form. -/
theorem isItem_of_mem_opened [Json.Nesting] {item inner : Json} (form : IsItem item)
    (member : inner ∈ opened item) :
    IsItem inner := by
  induction item using opened.induct with
  | case1 item items found ih =>
    rw [opened_of_folder found, List.mem_flatMap] at member
    obtain ⟨child, inside, deeper⟩ := member
    exact ih ⟨child, inside⟩ ((isItem_folder_iff found).1 form child inside) deeper
  | case2 item found =>
    rw [opened_of_not_folder found, List.mem_singleton] at member
    exact member ▸ form

/-- A collection is read when it has no items, or is itself of the form of a folder. -/
theorem load_of_forms [Json.Nesting] {collection : List (String × Json)}
    (form : (Entries.get? collection "item").isSome = true → IsItem (.object collection)) :
    ∃ endpoints notes, load (.object collection) = ⟨notes, .ok endpoints⟩ ∧
      Reads (leaves collection) endpoints notes := by
  rw [load_eq_gather, leaves]
  refine reads_gather (fun item member => folderItems?_of_mem_entries member) fun item member => ?_
  rw [entries] at member
  split at member
  · next listed => exact isItem_of_mem_opened (form listed) member
  · cases member

/-! ### Well-typed collections -/

/-- A text or `null`, which also stands for a member that is absent. -/
def IsTextOrNull (value : Json) : Prop :=
  value = .null ∨ ∃ text, value = .string text

/-- The type of a URL: `null`, a text, or an object whose path is a text or a list, of anything, and
whose whole URL is a text, where it has them. -/
inductive TypedUrl : Json → Prop where
  | null : TypedUrl .null
  | text {url : String} : TypedUrl (.string url)
  | object {members : List (String × Json)}
      (path : ∀ path, Entries.get? members "path" = some path →
        (∃ text, path = .string text) ∨ ∃ segments, path = .array segments)
      (raw : ∀ raw, Entries.get? members "raw" = some raw → ∃ text, raw = .string text) :
      TypedUrl (.object members)

/-- The type of a text for a body: `null`, or a text without a whole number that is too long. -/
def TypedText [Json.Nesting] (value : Json) : Prop :=
  value = .null ∨ IsBodyText value

/-- The type of a request body: `null`, or an object with a raw text. -/
inductive TypedBody [Json.Nesting] : Json → Prop where
  | null : TypedBody .null
  | object {members : List (String × Json)} (raw : TypedText (given members "raw")) :
      TypedBody (.object members)

/-- The type of a request: the text of a URL, or an object with a method, a URL and a body. -/
inductive TypedRequest [Json.Nesting] : Json → Prop where
  | url {url : String} : TypedRequest (.string url)
  | full {members : List (String × Json)} (method : IsTextOrNull (given members "method"))
      (url : TypedUrl (given members "url")) (body : TypedBody (given members "body")) :
      TypedRequest (.object members)

/-- The type of the responses of an item: `null`, or a list of objects with a body. -/
inductive TypedResponses [Json.Nesting] : Json → Prop where
  | null : TypedResponses .null
  | list {responses : List Json}
      (each : ∀ response ∈ responses, ∃ members, response = .object members ∧
        TypedText (given members "body")) :
      TypedResponses (.array responses)

/-- The type of an item: an object with a list of items, or `null` in its place, or else with a
request, responses and a name. -/
inductive TypedItem [Json.Nesting] : Json → Prop where
  | folder {members : List (String × Json)} {items : List Json}
      (listed : Entries.get? members "item" = some (.array items))
      (each : ∀ item ∈ items, TypedItem item) : TypedItem (.object members)
  | emptyFolder {members : List (String × Json)}
      (listed : Entries.get? members "item" = some .null) : TypedItem (.object members)
  | leaf {members : List (String × Json)} (noFolder : Entries.get? members "item" = none)
      (request : ∀ request, Entries.get? members "request" = some request → TypedRequest request)
      (responses : TypedResponses (given members "response"))
      (name : IsTextOrNull (given members "name")) : TypedItem (.object members)

/-- A collection whose members are of their types, at every depth. -/
def WellTyped [Json.Nesting] (collection : List (String × Json)) : Prop :=
  ∀ items, Entries.get? collection "item" = some items →
    items = .null ∨ ∃ list, items = .array list ∧ ∀ item ∈ list, TypedItem item

/-- A text or nothing is a text, or counts as absent. -/
theorem IsTextOrNull.isOptionalText {value : Json} (h : IsTextOrNull value) :
    IsOptionalText value := by
  rcases h with rfl | isText
  · exact .inl rfl
  · exact .inr isText

/-- A well-typed URL gives a path. -/
theorem TypedUrl.isUrl {url : Json} (h : TypedUrl url) : IsUrl url := by
  cases h with
  | null => exact .absent rfl
  | text => exact .text
  | @object members path raw =>
    -- Without a path the text of the whole URL decides.
    cases hasPath : Entries.get? members "path" with
    | some value =>
      rcases path value hasPath with ⟨text, rfl⟩ | ⟨segments, rfl⟩
      · exact .path hasPath
      · exact .segments hasPath
    | none =>
      cases hasRaw : Entries.get? members "raw" with
      | none => exact .noRaw hasRaw
      | some value =>
        obtain ⟨text, rfl⟩ := raw value hasRaw
        exact .raw hasRaw

/-- A well-typed body is of the form of a body. -/
theorem TypedBody.isRequestBody [Json.Nesting] {body : Json} (h : TypedBody body) :
    IsRequestBody body := by
  cases h with
  | null => exact .absent rfl
  | object raw =>
    rcases raw with absent | isText
    · exact .noText (congrArg Json.isPresent absent)
    · exact .text isText

/-- A well-typed request is of the form of a request. -/
theorem TypedRequest.isRequest [Json.Nesting] {request : Json} (h : TypedRequest request) :
    IsRequest request := by
  cases h with
  | url => exact .url
  | full method url body => exact .full method.isOptionalText url.isUrl body.isRequestBody

/-- Among objects a response without a preferred code has another one. -/
theorem hasOtherCode_of_typed [Json.Nesting] {response : Json}
    (typed : ∃ members, response = .object members ∧ TypedText (given members "body"))
    (other : prefers response = false) : HasOtherCode response := by
  obtain ⟨members, rfl, -⟩ := typed
  exact ⟨members, rfl, other⟩

/-- Well-typed responses are of the form of responses, whichever of them is the example. -/
theorem TypedResponses.areResponses [Json.Nesting] {responses : Json}
    (h : TypedResponses responses) :
    AreResponses responses := by
  cases h with
  | null => exact .absent rfl
  | @list responses each =>
    have isExample (response : Json) (member : response ∈ responses) : IsExample response := by
      obtain ⟨members, rfl, body⟩ := each response member
      exact ⟨members, rfl, body.imp_left (congrArg Json.isPresent)⟩
    cases responses with
    | nil => exact .absent rfl
    | cons head others =>
      -- The first response with a preferred code is the example; without one the head is.
      cases found : (head :: others).find? prefers with
      | none =>
        rw [List.find?_eq_none] at found
        refine .first (fun response member => ?_) (isExample head List.mem_cons_self)
        exact hasOtherCode_of_typed (each response member)
          (Bool.eq_false_iff.2 (found response member))
      | some response =>
        obtain ⟨preferred, before, after, split, earlier⟩ := List.find?_eq_some_iff_append.1 found
        have member : response ∈ head :: others := List.mem_of_find?_eq_some found
        obtain ⟨members, isObject, -⟩ := each response member
        refine .preferred ⟨before, after, split, fun other inside => ?_, members, isObject, ?_⟩
          (isExample response member)
        · refine hasOtherCode_of_typed (each other ?_) (by simpa using earlier other inside)
          rw [split]
          exact List.mem_append_left _ inside
        · rw [isObject] at preferred
          exact preferred

/-- An item of its type is of the form that loading needs. The induction goes into the folders. -/
theorem TypedItem.isItem [Json.Nesting] {item : Json} (h : TypedItem item) : IsItem item := by
  induction h with
  | folder listed each ih => exact .folder listed ih
  | emptyFolder listed => exact .emptyFolder listed rfl
  | @leaf members noFolder request responses name =>
    refine (isItem_leaf_iff noFolder).2 fun request' found => ?_
    exact ⟨(request request' found).isRequest, responses.areResponses, name.isOptionalText⟩

/-- A well-typed collection with items is of the form of a folder. -/
theorem WellTyped.isItem [Json.Nesting] {collection : List (String × Json)}
    (h : WellTyped collection)
    (listed : (Entries.get? collection "item").isSome = true) : IsItem (.object collection) := by
  obtain ⟨items, found⟩ := Option.isSome_iff_exists.1 listed
  rcases h items found with rfl | ⟨list, rfl, each⟩
  · exact .emptyFolder found rfl
  · exact .folder found fun item member => (each item member).isItem

/-- A text without so many digits in a row is read as a body, unless it is refused for its depth. -/
theorem isBodyText_of_short [Json.Nesting] {text : String} (short : ¬Json.HasLongRun text.toList)
    (shallow : ∀ fault, Json.read text = .error fault → fault.cause ≠ .tooDeep) :
    IsBodyText (.string text) := by
  refine ⟨text, rfl, fun fault refused => ?_⟩
  have noNumber : ∀ digits, fault.cause ≠ .integerTooLong digits :=
    fun digits long => short (Json.hasLongRun_of_read refused long)
  have noDepth := shallow fault refused
  -- What is left are the faults of the notation.
  cases cause : fault.cause with
  | integerTooLong digits => exact absurd cause (noNumber digits)
  | tooDeep => exact absurd cause noDepth
  | _ => rfl

/-- **Well-typed collections are loaded, and only bodies are given up**: a well-typed collection
gives an endpoint for every leaf with a request, in the order of the document. The request body
is the value of the raw text in raw mode, the response body that of the text of the example. A
text that is no JSON gives `null` and one note. A text without a long run of digits does not end
the run unless it is refused for its depth, and for that it has to have more opening brackets
than the limit. -/
theorem load_of_wellTyped [Json.Nesting] :
    (∀ text : String, ¬Json.HasLongRun text.toList →
      (∀ fault, Json.read text = .error fault → fault.cause ≠ .tooDeep) →
      IsBodyText (.string text)) ∧
    (∀ text : String, Json.openings text.toList ≤ Json.Nesting.limit →
      ∀ fault, Json.read text = .error fault → fault.cause ≠ .tooDeep) ∧
    ∀ collection, WellTyped collection →
      ∃ endpoints notes, load (.object collection) = ⟨notes, .ok endpoints⟩ ∧
        Reads (leaves collection) endpoints notes ∧
        List.Forall₂ IsReadAs (requests (leaves collection)) endpoints := by
  refine ⟨fun text short shallow => isBodyText_of_short short shallow,
    fun text few fault refused deep => ?_, fun collection typed => ?_⟩
  · exact absurd (Json.limit_lt_openings_of_read refused deep) (Nat.not_lt.2 few)
  · obtain ⟨endpoints, notes, ended, reads⟩ := load_of_forms typed.isItem
    exact ⟨endpoints, notes, ended, reads, reads.read⟩

/-! ### A collection with bodies that are given up -/

section Drafts

/-- Room enough for what is read here. -/
local instance draftsNesting : Json.Nesting :=
  ⟨8⟩

/-- A response with a code and a body. -/
def answer (code : Int) (body : String) : Json :=
  .object [("code", .int code), ("body", .string body)]

/-- A request with a body in raw mode, and a response to it. -/
def posted (name raw : String) (responses : List Json) : Json :=
  .object [("name", .string name),
    ("request", .object [("method", .string "post"), ("url", .string "/users"),
      ("body", .object [("mode", .string "raw"), ("raw", .string raw)])]),
    ("response", .array responses)]

/-- A collection with a folder of two such requests, an item that is left out, and a request without
bodies. The texts of the second request are no JSON. -/
def drafts : List (String × Json) :=
  [("item", .array [
    folder "Users" (.array [
      posted "Add" "[1]" [answer 404 "[]", answer 201 "[2]", answer 200 "[3]"],
      posted "Save" "[1" [answer 500 "failed"]]),
    .object [("name", .string "Notes")],
    page "List" "/users"])]

/-- A posted body is well-typed when its text is one the decoder accepts. -/
theorem typedItem_posted (name : String) {raw : String} {responses : List Json}
    (isText : IsBodyText (.string raw)) (typed : TypedResponses (.array responses)) :
    TypedItem (posted name raw responses) :=
  .leaf rfl (fun _ same => Option.some.inj same ▸
      .full (.inr ⟨"post", rfl⟩) .text (.object (.inr isText)))
    typed (.inr ⟨name, rfl⟩)

/-- The text of a response that the decoder accepts is well-typed in the same way. -/
theorem typed_answer (code : Int) {body : String} (isText : IsBodyText (.string body)) :
    ∃ members, answer code body = .object members ∧ TypedText (given members "body") :=
  ⟨_, rfl, .inr isText⟩

/-- The collection is well-typed when no text for a body in it has a whole number that is too
long. -/
theorem wellTyped_drafts
    (short : ∀ text ∈ ["[1]", "[1", "[]", "[2]", "[3]", "failed"], IsBodyText (.string text)) :
    WellTyped drafts := by
  have add : TypedItem
      (posted "Add" "[1]" [answer 404 "[]", answer 201 "[2]", answer 200 "[3]"]) := by
    refine typedItem_posted _ (short _ (by simp)) (.list ?_)
    simp only [List.mem_cons, List.not_mem_nil, or_false, forall_eq_or_imp, forall_eq]
    exact ⟨typed_answer _ (short _ (by simp)), typed_answer _ (short _ (by simp)),
      typed_answer _ (short _ (by simp))⟩
  have save : TypedItem (posted "Save" "[1" [answer 500 "failed"]) :=
    typedItem_posted _ (short _ (by simp))
      (.list (List.forall_mem_singleton.2 (typed_answer _ (short _ (by simp)))))
  intro items same
  obtain rfl := Option.some.inj same
  refine .inr ⟨_, rfl, ?_⟩
  simp only [List.mem_cons, List.not_mem_nil, or_false, forall_eq_or_imp, forall_eq]
  refine ⟨.folder rfl ?_, .leaf rfl nofun .null (.inr ⟨_, rfl⟩),
    .leaf rfl (fun _ same => Option.some.inj same ▸ .url) .null (.inr ⟨_, rfl⟩)⟩
  exact List.forall_mem_cons.2 ⟨add, List.forall_mem_singleton.2 save⟩

/-- The two texts that are no JSON are given up and noted, and the endpoints of all three requests
are there. The example of the first request is the response with the code 201. -/
theorem load_drafts :
    ∃ endpoints notes, load (.object drafts) = ⟨notes, .ok endpoints⟩ ∧
      Reads (leaves drafts) endpoints notes ∧
      endpoints = [⟨"Add", "POST", "users", .array [.int 1], .array [.int 2]⟩,
        ⟨"Save", "POST", "users", .null, .null⟩, ⟨"List", "GET", "users", .null, .null⟩] ∧
      notes = [.requestBodyUnreadable "Save", .responseBodyUnreadable "Save", .itemSkipped "Notes",
        .noExampleResponse "List"] := by
  obtain ⟨bodyText, shallow, loaded⟩ := load_of_wellTyped
  have typed : WellTyped drafts := wellTyped_drafts fun text member => by
    -- The texts of the drafts are too short for a long number and for deep nesting.
    have short : text.length ≤ 6 := by revert text; decide
    have few : Json.openings text.toList ≤ 8 :=
      Nat.le_trans List.countP_le_length (Nat.le_trans short (by decide))
    exact bodyText text (Json.not_hasLongRun_of_length_le (Nat.le_trans short (by decide)))
      (shallow text few)
  obtain ⟨endpoints, notes, ended, reads, -⟩ := loaded drafts typed
  have run : load (.object drafts) =
      ⟨[.requestBodyUnreadable "Save", .responseBodyUnreadable "Save", .itemSkipped "Notes",
          .noExampleResponse "List"],
        .ok [⟨"Add", "POST", "users", .array [.int 1], .array [.int 2]⟩,
          ⟨"Save", "POST", "users", .null, .null⟩,
          ⟨"List", "GET", "users", .null, .null⟩]⟩ := by rfl
  obtain ⟨sameNotes, sameEndpoints⟩ := Report.mk.inj (ended.symm.trans run)
  exact ⟨endpoints, notes, ended, reads, Except.ok.inj sameEndpoints, sameNotes⟩

end Drafts

end Accord.Contract
