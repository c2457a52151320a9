import Accord.Proofs.Contract.Folder

/-!
# `Accord.Proofs.Contract.Form`: the form that items have to have

Nothing checks the form of a collection beforehand. A value is taken for what is needed of it
where it is needed, and a value of another form ends the run. `IsItem` lists the forms that
every stage takes, part by part: names and methods, URLs, bodies and example responses.
`succeeds_loadItem_iff` says that an item is loaded exactly when it is of that form.

Members that are absent count as `null`, and for most of them every value that counts as absent
(`Json.isPresent`) is as good.
-/

set_option autoImplicit false

namespace Accord.Contract

/-! ### Names and methods -/

/-- The value under a name, `null` when there is none. -/
def given (members : List (String × Json)) (name : String) : Json :=
  (Entries.get? members name).getD .null

/-- Looking for a member of an object does not fail. -/
theorem member_object (members : List (String × Json)) (name : String) :
    member (.object members) name = .ok (given members name) :=
  rfl

/-- A text, or a value that counts as absent. -/
def IsOptionalText (value : Json) : Prop :=
  value.isPresent = false ∨ ∃ text, value = .string text

/-- The method is read when it is a text or counts as absent. -/
theorem exists_methodOf_iff (method : Json) :
    (∃ text, methodOf method = .ok text) ↔ IsOptionalText method := by
  unfold methodOf IsOptionalText
  cases present : method.isPresent with
  | false => simp
  | true => cases method <;> simp

/-! ### URLs -/

/-- A URL: a text, or an object that holds a path or the text of a whole URL. -/
inductive IsUrl : Json → Prop where
  | absent {url : Json} : url.isPresent = false → IsUrl url
  | text {url : String} : IsUrl (.string url)
  | segments {members : List (String × Json)} {segments : List Json} :
      Entries.get? members "path" = some (.array segments) → IsUrl (.object members)
  | path {members : List (String × Json)} {path : String} :
      Entries.get? members "path" = some (.string path) → IsUrl (.object members)
  | noRaw {members : List (String × Json)} :
      Entries.get? members "raw" = none → IsUrl (.object members)
  | raw {members : List (String × Json)} {raw : String} :
      Entries.get? members "raw" = some (.string raw) → IsUrl (.object members)

/-- The members of a URL give a path when the URL is of its form. -/
theorem exists_pathOfMembers_iff {members : List (String × Json)}
    (present : (Json.object members).isPresent = true) :
    (∃ path, pathOfMembers members = .ok path) ↔ IsUrl (.object members) := by
  unfold pathOfMembers
  split
  · next found => exact iff_of_true ⟨_, rfl⟩ (.segments found)
  · next found => exact iff_of_true ⟨_, rfl⟩ (.path found)
  · next noSegments noPath =>
    split
    · next found => exact iff_of_true ⟨_, rfl⟩ (.noRaw found)
    · next found => exact iff_of_true ⟨_, rfl⟩ (.raw found)
    · -- There is something for the whole URL, and it is no text.
      next noText found =>
      refine iff_of_false (by simp) fun isUrl => ?_
      cases isUrl with
      | absent absent => cases present.symm.trans absent
      | segments h => exact noSegments _ h
      | path h => exact noPath _ h
      | noRaw h => cases found.symm.trans h
      | raw h => exact noText _ (Option.some.inj (found.symm.trans h))

/-- A URL gives a path exactly when it is of its form. -/
theorem exists_pathOf_iff (url : Json) : (∃ path, pathOf url = .ok path) ↔ IsUrl url := by
  unfold pathOf
  cases present : url.isPresent with
  | false => exact iff_of_true ⟨_, rfl⟩ (.absent present)
  | true =>
    cases url with
    | string => exact iff_of_true ⟨_, rfl⟩ .text
    | object members =>
      rw [← exists_pathOfMembers_iff present]
      simp only [Bool.not_true, Bool.false_eq_true, if_false]
      cases pathOfMembers members with
      | ok => simp [Except.map]
      | error => simp [Except.map]
    | _ =>
      refine iff_of_false (by simp) fun isUrl => ?_
      cases isUrl with
      | absent absent => cases present.symm.trans absent

/-! ### Bodies -/

/-- A text that is read as an example body: JSON, or a text that is no JSON. What ends the run
instead is a text that exceeds a limit of the reader, with a whole number of too many digits or
with arrays and objects too deep inside each other. -/
def IsBodyText [Json.Nesting] (body : Json) : Prop :=
  ∃ text, body = .string text ∧
    ∀ fault, Json.read text = .error fault → Fault.ofReading? fault.cause = none

/-- A body is decoded, or given up as no JSON, exactly when it is a text the decoder does not break
off on. -/
theorem exists_decodeBody_iff [Json.Nesting] (body : Json) :
    (∃ decoded, decodeBody body = .ok decoded) ↔ IsBodyText body := by
  unfold decodeBody
  cases body with
  | string text =>
    simp only [IsBodyText, Json.string.injEq, exists_eq_left']
    cases found : Json.read text with
    | ok value => simp
    | error fault => cases limit : Fault.ofReading? fault.cause <;> simp [limit]
  | _ => simp [IsBodyText]

/-- A body is decoded, or noted. -/
theorem succeeds_bodyOrNote_iff [Json.Nesting] (body : Json) (problem : Event) :
    (bodyOrNote body problem).Succeeds ↔ IsBodyText body := by
  rw [← exists_decodeBody_iff, bodyOrNote]
  cases decodeBody body with
  | error fault => exact iff_of_false (Report.not_succeeds_fail fault) (by simp)
  | ok decoded =>
    refine iff_of_true ?_ ⟨decoded, rfl⟩
    cases decoded with
    | some value => exact Report.succeeds_ok value
    | none => exact Report.succeeds_ok Json.null

/-- The body of a request: an object, and in raw mode its raw text is absent or read as a body. -/
inductive IsRequestBody [Json.Nesting] : Json → Prop where
  | absent {body : Json} : body.isPresent = false → IsRequestBody body
  | otherMode {members : List (String × Json)} : given members "mode" ≠ .string "raw" →
      IsRequestBody (.object members)
  | noText {members : List (String × Json)} : Lacks members "raw" →
      IsRequestBody (.object members)
  | text {members : List (String × Json)} : IsBodyText (given members "raw") →
      IsRequestBody (.object members)

/-- The body of a request is loaded exactly when it is of its form. -/
theorem succeeds_requestBody_iff [Json.Nesting] (body : Json) (name : String) :
    (requestBody body name).Succeeds ↔ IsRequestBody body := by
  unfold requestBody
  cases present : body.isPresent with
  | false => exact iff_of_true (Report.succeeds_ok _) (.absent present)
  | true =>
    cases body with
    | object members =>
      simp only [Bool.not_true, Bool.false_eq_true, if_false, member_object, Report.ofExcept_ok,
        Report.bind_eq, Report.ok_andThen]
      split
      · next mode =>
        -- In the mode `raw` an absent text is no text, and a present one has to be readable.
        cases raw : (given members "raw").isPresent with
        | false => exact iff_of_true (Report.succeeds_ok _) (.noText raw)
        | true =>
          simp only [if_true, succeeds_bodyOrNote_iff]
          refine ⟨.text, fun isBody => ?_⟩
          cases isBody with
          | absent absent => cases present.symm.trans absent
          | otherMode other => exact absurd mode other
          | noText absent => cases raw.symm.trans absent
          | text isText => exact isText
      · next other => exact iff_of_true (Report.succeeds_ok _) (.otherMode other)
    | _ =>
      refine iff_of_false (Report.not_succeeds_fail _) fun isBody => ?_
      cases isBody with
      | absent absent => cases present.symm.trans absent

/-! ### Responses -/

/-- A response whose code is not one of the preferred ones. -/
def HasOtherCode (response : Json) : Prop :=
  ∃ members, response = .object members ∧ isPreferredCode (given members "code") = false

/-- A response whose code is one of the preferred ones. -/
def HasPreferredCode (response : Json) : Prop :=
  ∃ members, response = .object members ∧ isPreferredCode (given members "code") = true

/-- A response whose body is absent or read as a body. -/
def IsExample [Json.Nesting] (response : Json) : Prop :=
  ∃ members, response = .object members ∧
    (Lacks members "body" ∨ IsBodyText (given members "body"))

/-- The first of some responses with a preferred code. What stands behind it does not matter. -/
def IsFirstPreferred (response : Json) (responses : List Json) : Prop :=
  ∃ before after, responses = before ++ response :: after ∧
    (∀ earlier ∈ before, HasOtherCode earlier) ∧ HasPreferredCode response

/-- The responses of an item: one of them serves as the example. -/
inductive AreResponses [Json.Nesting] : Json → Prop where
  | absent {responses : Json} : responses.isPresent = false → AreResponses responses
  | preferred {responses : List Json} {response : Json} : IsFirstPreferred response responses →
      IsExample response → AreResponses (.array responses)
  | first {response : Json} {others : List Json} :
      (∀ each ∈ response :: others, HasOtherCode each) → IsExample response →
      AreResponses (.array (response :: others))

/-- A response with a preferred code is the one. -/
theorem preferred?_of_preferred {response : Json} (h : HasPreferredCode response)
    (rest : List Json) : preferred? (response :: rest) = .ok (some response) := by
  obtain ⟨members, rfl, code⟩ := h
  simp only [preferred?, member_object, bind, Except.bind, code, if_true]
  rfl

/-- A response with another code is passed over. -/
theorem preferred?_of_other {response : Json} (h : HasOtherCode response) (rest : List Json) :
    preferred? (response :: rest) = preferred? rest := by
  obtain ⟨members, rfl, code⟩ := h
  simp only [preferred?, member_object, bind, Except.bind, code, Bool.false_eq_true, if_false]

/-- A response has a preferred code, or another one, or is no object and ends the search. -/
theorem code_cases (response : Json) (rest : List Json) :
    HasPreferredCode response ∧ ¬HasOtherCode response ∨
      HasOtherCode response ∧ ¬HasPreferredCode response ∨
      ¬HasPreferredCode response ∧ ¬HasOtherCode response ∧
        preferred? (response :: rest) = .error .noMembers := by
  cases response with
  | object members =>
    cases code : isPreferredCode (given members "code") with
    | true => exact .inl ⟨⟨members, rfl, code⟩, by simp [HasOtherCode, code]⟩
    | false => exact .inr (.inl ⟨⟨members, rfl, code⟩, by simp [HasPreferredCode, code]⟩)
  | _ => exact .inr (.inr ⟨by simp [HasPreferredCode], by simp [HasOtherCode], rfl⟩)

/-- There is no response among none. -/
theorem not_isFirstPreferred_nil (response : Json) : ¬IsFirstPreferred response [] := by
  rintro ⟨before, after, same, -⟩
  simp at same

/-- The first response with a preferred code stands in front, or behind one with another code. -/
theorem isFirstPreferred_cons_iff {head response : Json} {rest : List Json} :
    IsFirstPreferred response (head :: rest) ↔
      head = response ∧ HasPreferredCode response ∨
        HasOtherCode head ∧ IsFirstPreferred response rest := by
  constructor
  · rintro ⟨before, after, same, others, preferred⟩
    cases before with
    | nil => exact .inl ⟨(List.cons.inj same).1, preferred⟩
    | cons first more =>
      obtain ⟨rfl, tails⟩ := List.cons.inj same
      obtain ⟨other, others⟩ := List.forall_mem_cons.1 others
      exact .inr ⟨other, more, after, tails, others, preferred⟩
  · rintro (⟨rfl, preferred⟩ | ⟨other, before, after, rfl, others, preferred⟩)
    · exact ⟨[], rest, rfl, by simp, preferred⟩
    · exact ⟨head :: before, after, rfl, List.forall_mem_cons.2 ⟨other, others⟩, preferred⟩

/-- The search gives the first response with a preferred code. -/
theorem preferred?_eq_some_iff {responses : List Json} {response : Json} :
    preferred? responses = .ok (some response) ↔ IsFirstPreferred response responses := by
  induction responses with
  | nil => simp [preferred?, not_isFirstPreferred_nil]
  | cons head rest ih =>
    rw [isFirstPreferred_cons_iff]
    -- The code of the head is a preferred one, another one, or cannot be read, and then the search
    -- ends.
    rcases code_cases head rest with ⟨preferred, notOther⟩ | ⟨other, notPreferred⟩ |
      ⟨notPreferred, notOther, ends⟩
    · rw [preferred?_of_preferred preferred]
      constructor
      · intro found
        obtain rfl := Option.some.inj (Except.ok.inj found)
        exact .inl ⟨rfl, preferred⟩
      · rintro (⟨rfl, -⟩ | ⟨other, -⟩)
        · rfl
        · exact absurd other notOther
    · rw [preferred?_of_other other, ih]
      refine ⟨fun found => .inr ⟨other, found⟩, ?_⟩
      rintro (⟨rfl, preferred⟩ | ⟨-, found⟩)
      · exact absurd preferred notPreferred
      · exact found
    · rw [ends]
      refine iff_of_false nofun ?_
      rintro (⟨rfl, preferred⟩ | ⟨other, -⟩)
      · exact notPreferred preferred
      · exact notOther other

/-- No response with a preferred code is found when all are responses with other codes. -/
theorem preferred?_eq_none_iff {responses : List Json} :
    preferred? responses = .ok none ↔ ∀ each ∈ responses, HasOtherCode each := by
  induction responses with
  | nil => exact iff_of_true rfl (by simp)
  | cons head rest ih =>
    rw [List.forall_mem_cons]
    rcases code_cases head rest with ⟨preferred, notOther⟩ | ⟨other, -⟩ | ⟨-, notOther, ends⟩
    · rw [preferred?_of_preferred preferred]
      exact iff_of_false nofun fun both => notOther both.1
    · rw [preferred?_of_other other, ih, and_iff_right other]
    · rw [ends]
      exact iff_of_false nofun fun both => notOther both.1

/-- A list of responses has an example: the first one with a preferred code, or else the first one.
-/
theorem exampleResponse_cons (first : Json) (others : List Json) :
    exampleResponse (.array (first :: others)) =
      (preferred? (first :: others)).map fun preferred => some (preferred.getD first) := by
  unfold exampleResponse
  rw [if_neg (by simp [Json.isPresent])]
  simp only
  cases preferred? (first :: others) with
  | error => rfl
  | ok preferred => cases preferred <;> rfl

/-- The example is read when it is an object with a body of that form. -/
theorem succeeds_example_iff [Json.Nesting] (found : Json) (name : String) :
    (do
      let body ← Report.ofExcept (member found "body")
      if body.isPresent then bodyOrNote body (.responseBodyUnreadable name)
      else do
        Report.note (.exampleWithoutBody name)
        return .null : Report Fault Json).Succeeds ↔ IsExample found := by
  cases found with
  | object members =>
    simp only [member_object, Report.ofExcept_ok, Report.bind_eq, Report.ok_andThen]
    have same : IsExample (.object members) ↔
        Lacks members "body" ∨ IsBodyText (given members "body") := by
      simp [IsExample]
    rw [same]
    cases body : (given members "body").isPresent with
    | false => exact iff_of_true (Report.succeeds_ok Json.null) (.inl body)
    | true =>
      simp only [if_true, succeeds_bodyOrNote_iff]
      have present : ¬Lacks members "body" := by
        intro absent
        cases body.symm.trans absent
      rw [or_iff_right present]
  | _ =>
    refine iff_of_false (Report.not_succeeds_fail _) ?_
    rintro ⟨members, same, -⟩
    cases same

/-- The form of a list of responses by the search for a preferred code. -/
theorem areResponses_cons_iff [Json.Nesting] {first : Json} {others : List Json} :
    AreResponses (.array (first :: others)) ↔
      ∃ preferred, preferred? (first :: others) = .ok preferred ∧
        IsExample (preferred.getD first) := by
  constructor
  · intro h
    generalize same : Json.array (first :: others) = responses at h
    cases h with
    | absent absent =>
      subst same
      cases absent
    | preferred isFirst isExample =>
      obtain rfl := Json.array.inj same
      exact ⟨_, preferred?_eq_some_iff.2 isFirst, isExample⟩
    | first otherCodes isExample =>
      obtain ⟨rfl, rfl⟩ := List.cons.inj (Json.array.inj same)
      exact ⟨none, preferred?_eq_none_iff.2 otherCodes, isExample⟩
  · rintro ⟨preferred, found, isExample⟩
    cases preferred with
    | some response => exact .preferred (preferred?_eq_some_iff.1 found) isExample
    | none => exact .first (preferred?_eq_none_iff.1 found) isExample

/-- The responses are read when they have an example that is read. -/
theorem succeeds_responseBody_iff [Json.Nesting] (responses : Json) (name : String) :
    (responseBody responses name).Succeeds ↔ AreResponses responses := by
  cases present : responses.isPresent with
  | false => exact iff_of_true ⟨_, outcome_responseBody present name⟩ (.absent present)
  | true =>
    -- Without a list there is no example, whatever else the value is.
    have refused (h : ∃ fault, exampleResponse responses = .error fault) :
        ¬(responseBody responses name).Succeeds := by
      obtain ⟨fault, ends⟩ := h
      rw [responseBody, ends]
      exact Report.not_succeeds_fail fault
    cases responses with
    | array list =>
      cases list with
      | nil => cases present
      | cons first others =>
        rw [areResponses_cons_iff, responseBody, exampleResponse_cons]
        cases preferred? (first :: others) with
        | error fault => exact iff_of_false (Report.not_succeeds_fail fault) (by simp)
        | ok preferred =>
          have only : (∃ other, (Except.ok preferred : Except Fault (Option Json)) = .ok other ∧
              IsExample (other.getD first)) ↔ IsExample (preferred.getD first) := by simp
          rw [only]
          exact succeeds_example_iff _ name
    | string | object | bool | int | double =>
      have noList : ∃ fault, exampleResponse _ = .error fault :=
        ⟨_, by unfold exampleResponse; rw [if_neg (by rw [present]; simp)]⟩
      refine iff_of_false (refused noList) fun h => ?_
      cases h with
      | absent absent => cases present.symm.trans absent
    | null => cases present

/-! ### Items -/

/-- A request: the text of its URL, or an object with a method, a URL and a body. -/
inductive IsRequest [Json.Nesting] : Json → Prop where
  | url {url : String} : IsRequest (.string url)
  | full {members : List (String × Json)} : IsOptionalText (given members "method") →
      IsUrl (given members "url") → IsRequestBody (given members "body") →
      IsRequest (.object members)

/-- An item of a collection: a folder with a list of items, a request with a name and responses, or
an object that is neither. -/
inductive IsItem [Json.Nesting] : Json → Prop where
  | folder {members : List (String × Json)} {items : List Json} :
      Entries.get? members "item" = some (.array items) → (∀ item ∈ items, IsItem item) →
      IsItem (.object members)
  | emptyFolder {members : List (String × Json)} {items : Json} :
      Entries.get? members "item" = some items → items.isPresent = false → IsItem (.object members)
  | request {members : List (String × Json)} {request : Json} :
      Entries.get? members "item" = none → Entries.get? members "request" = some request →
      IsRequest request → AreResponses (given members "response") →
      IsOptionalText (given members "name") → IsItem (.object members)
  | other {members : List (String × Json)} : Entries.get? members "item" = none →
      Entries.get? members "request" = none → IsItem (.object members)

/-- A request is completed to an object, or it is no request and none of its members can be read. -/
theorem fullRequest_eq_object_or [Json.Nesting] (request : Json) :
    (∃ members, fullRequest request = .object members ∧
      (IsRequest request ↔ IsOptionalText (given members "method") ∧ IsUrl (given members "url") ∧
        IsRequestBody (given members "body"))) ∨
    ¬IsRequest request ∧ ∀ name, member (fullRequest request) name = .error .noMembers := by
  cases request with
  -- A text is the URL of a request without a body.
  | string url =>
    refine .inl ⟨_, rfl, iff_of_true .url ⟨.inr ⟨_, rfl⟩, .text, .absent rfl⟩⟩
  | object members =>
    refine .inl ⟨members, rfl, ?_⟩
    constructor
    · rintro ⟨⟩
      exact ⟨by assumption, by assumption, by assumption⟩
    · rintro ⟨method, url, body⟩
      exact .full method url body
  | _ => exact .inr ⟨nofun, fun _ => rfl⟩

/-- What the endpoint of an item is called: what the item has for a name, or else a text. -/
def nameOr (item : List (String × Json)) (fallback : String) : Json :=
  if (given item "name").isPresent then given item "name" else .string fallback

/-- An item has a text for a name exactly when its own name is a text or counts as absent. -/
theorem exists_nameOr_iff (item : List (String × Json)) (fallback : String) :
    (∃ text, nameOr item fallback = .string text) ↔ IsOptionalText (given item "name") := by
  unfold nameOr IsOptionalText
  cases present : (given item "name").isPresent with
  | false => simp
  | true => simp

/-- The endpoint of an item under a name, which has to be a text. -/
def namedEndpoint (name : Json) (method path : String) (requestBody responseBody : Json) :
    Report Fault ContractEndpoint :=
  match name with
  | .string name => .ok ⟨name, method, path, requestBody, responseBody⟩
  | _ => .fail .nameNotText

/-- An endpoint needs a text for a name. -/
theorem succeeds_namedEndpoint_iff (name : Json) (method path : String)
    (requestBody responseBody : Json) :
    (namedEndpoint name method path requestBody responseBody).Succeeds ↔
      ∃ text, name = .string text := by
  cases name with
  | string text => exact iff_of_true (Report.succeeds_ok _) ⟨text, rfl⟩
  | _ => exact iff_of_false (Report.not_succeeds_fail _) nofun

/-- The stages behind the method and the path: the two bodies and the name. -/
def withBodies [Json.Nesting] (item request : List (String × Json)) (method path : String) :
    Report Fault ContractEndpoint :=
  let name := nameOr item s!"{method} {path}"
  (requestBody (given request "body") name.display).andThen fun requestBody =>
    (responseBody (given item "response") name.display).andThen fun responseBody =>
      namedEndpoint name method path requestBody responseBody

/-- The endpoint is loaded when its body, its responses and its name are of their forms. -/
theorem succeeds_withBodies_iff [Json.Nesting] (item request : List (String × Json))
    (method path : String) :
    (withBodies item request method path).Succeeds ↔
      IsRequestBody (given request "body") ∧ AreResponses (given item "response") ∧
        IsOptionalText (given item "name") := by
  unfold withBodies
  simp only
  -- Each stage is independent of what the one before found, so the forms are asked for side by
  -- side.
  rw [Report.succeeds_andThen_iff_and, succeeds_requestBody_iff]
  intro requestBody
  rw [Report.succeeds_andThen_iff_and, succeeds_responseBody_iff]
  intro responseBody
  rw [succeeds_namedEndpoint_iff, exists_nameOr_iff]

/-- The stages that a request in full goes through. -/
theorem endpointOf_eq [Json.Nesting] (item : List (String × Json)) {request : Json}
    {members : List (String × Json)} (full : fullRequest request = .object members) :
    endpointOf item request =
      (Report.ofExcept (methodOf (given members "method"))).andThen fun method =>
        (Report.ofExcept (pathOf (given members "url"))).andThen fun path =>
          withBodies item members method path := by
  simp only [endpointOf, full]
  rfl

/-- A request is read as an endpoint when it and what stands beside it have their forms. -/
theorem succeeds_endpointOf_iff [Json.Nesting] (item : List (String × Json)) (request : Json) :
    (endpointOf item request).Succeeds ↔
      IsRequest request ∧ AreResponses (given item "response") ∧
        IsOptionalText (given item "name") := by
  rcases fullRequest_eq_object_or request with ⟨members, full, form⟩ | ⟨noRequest, noMembers⟩
  · -- No stage has a say in whether a later one ends well, so each one adds its own form.
    have withPath : ∀ method, ((Report.ofExcept (pathOf (given members "url"))).andThen fun path =>
        withBodies item members method path).Succeeds ↔
        IsUrl (given members "url") ∧ IsRequestBody (given members "body") ∧
          AreResponses (given item "response") ∧ IsOptionalText (given item "name") := by
      intro method
      rw [Report.succeeds_andThen_iff_and (succeeds_withBodies_iff item members method),
        Report.succeeds_ofExcept_iff, exists_pathOf_iff]
    rw [endpointOf_eq item full, Report.succeeds_andThen_iff_and withPath,
      Report.succeeds_ofExcept_iff, exists_methodOf_iff, form, and_assoc, and_assoc]
  · -- The method is the first member that is asked for, and the request has none.
    refine iff_of_false ?_ fun both => noRequest both.1
    simp only [endpointOf, noMembers]
    exact Report.not_succeeds_fail _

/-! ### Loading -/

/-- Texts in the place of items are never loaded. -/
theorem succeeds_textItems_iff (texts : List String) : (textItems texts).Succeeds ↔ texts = [] := by
  cases texts with
  | nil => exact iff_of_true (Report.succeeds_ok _) rfl
  | cons => exact iff_of_false (Report.not_succeeds_fail _) nofun

/-- What stands for the items of a folder is loaded when it is a list of items that are, or counts
as absent. -/
theorem succeeds_loadItems_iff [Json.Nesting] (value : Json) :
    (loadItems value).Succeeds ↔
      value.isPresent = false ∨ ∃ items, value = .array items ∧
        ∀ item ∈ items, (loadItem item).Succeeds := by
  cases value with
  | array items =>
    rw [loadItems, loadAll_eq_gather, Report.succeeds_gather_iff]
    cases items with
    | nil => simp [Json.isPresent]
    | cons => simp [Json.isPresent]
  | object members =>
    rw [loadItems, succeeds_textItems_iff]
    simp [Json.isPresent, Entries.keys]
  | string text =>
    rw [loadItems, succeeds_textItems_iff]
    simp [Json.isPresent]
  | null =>
    rw [loadItems]
    exact iff_of_true (Report.succeeds_ok _) (.inl rfl)
  | bool value =>
    rw [loadItems]
    cases value with
    | false => exact iff_of_true (Report.succeeds_ok _) (.inl rfl)
    | true => exact iff_of_false (Report.not_succeeds_fail _) (by simp [Json.isPresent])
  -- Zero counts as absent, every other number is no list.
  | int value =>
    rw [loadItems]
    by_cases zero : value = 0
    · rw [if_pos zero]
      exact iff_of_true (Report.succeeds_ok _) (.inl (by simp [Json.isPresent, zero]))
    · rw [if_neg zero]
      exact iff_of_false (Report.not_succeeds_fail _) (by simp [Json.isPresent, zero])
  | double value =>
    rw [loadItems]
    cases zero : value.isZero with
    | true => exact iff_of_true (Report.succeeds_ok _) (.inl (by simp [Json.isPresent, zero]))
    | false => exact iff_of_false (Report.not_succeeds_fail _) (by simp [Json.isPresent, zero])

/-- An object without a list of items is loaded when its request is read, if it has one. -/
theorem succeeds_leafEndpoints_iff [Json.Nesting] (item : List (String × Json)) :
    (leafEndpoints item).Succeeds ↔
      ∀ request, Entries.get? item "request" = some request →
        IsRequest request ∧ AreResponses (given item "response") ∧
          IsOptionalText (given item "name") := by
  unfold leafEndpoints
  cases found : Entries.get? item "request" with
  | none => exact iff_of_true (Report.succeeds_ok _) nofun
  | some request =>
    simp only [Option.some.injEq, forall_eq', ← succeeds_endpointOf_iff]
    exact (Report.succeeds_andThen_iff_and fun endpoint =>
      iff_of_true (Report.succeeds_ok _) trivial).trans (and_iff_left trivial)

/-- A folder is of the form of an item when its items are. -/
theorem isItem_folder_iff [Json.Nesting] {item : Json} {items : List Json}
    (h : folderItems? item = some items) :
    IsItem item ↔ ∀ inner ∈ items, IsItem inner := by
  obtain ⟨members, rfl, listed | ⟨absent, rfl⟩⟩ := folderItems?_eq_some_iff.1 h
  · refine ⟨fun isItem => ?_, .folder listed⟩
    cases isItem with
    | folder found inner =>
      obtain rfl := Json.array.inj (Option.some.inj (listed.symm.trans found))
      exact inner
    | emptyFolder found absent =>
      obtain rfl := Option.some.inj (listed.symm.trans found)
      -- A list that counts as absent is empty.
      intro inner member
      rw [Json.isPresent, Bool.not_eq_false', List.isEmpty_iff] at absent
      rw [absent] at member
      cases member
    | request noFolder | other noFolder => cases listed.symm.trans noFolder
  · exact iff_of_true (.emptyFolder absent rfl) (by simp)

/-- An object without anything for its items is of the form of an item when its request is. -/
theorem isItem_leaf_iff [Json.Nesting] {members : List (String × Json)}
    (noFolder : Entries.get? members "item" = none) :
    IsItem (.object members) ↔
      ∀ request, Entries.get? members "request" = some request →
        IsRequest request ∧ AreResponses (given members "response") ∧
          IsOptionalText (given members "name") := by
  constructor
  · intro isItem request found
    cases isItem with
    | folder listed | emptyFolder listed => cases noFolder.symm.trans listed
    | request _ other isRequest responses name =>
      obtain rfl := Option.some.inj (found.symm.trans other)
      exact ⟨isRequest, responses, name⟩
    | other _ noRequest => cases found.symm.trans noRequest
  · intro form
    cases found : Entries.get? members "request" with
    | none => exact .other noFolder found
    | some request =>
      obtain ⟨isRequest, responses, name⟩ := form request found
      exact .request noFolder found isRequest responses name

/-- **The form of items**: an item is loaded exactly when it is of that form. -/
theorem succeeds_loadItem_iff [Json.Nesting] (item : Json) :
    (loadItem item).Succeeds ↔ IsItem item := by
  -- The recursion of `opened` goes into the folders and stops at everything else.
  induction item using opened.induct with
  | case1 item items found ih =>
    rw [loadItem_of_folder found, Report.succeeds_gather_iff, isItem_folder_iff found]
    exact forall₂_congr fun inner member => ih ⟨inner, member⟩
  | case2 item found =>
    cases item with
    | object members =>
      rw [loadItem]
      cases listed : Entries.get? members "item" with
      | none =>
        rw [loadFolder_of_get?_eq_none _ listed, succeeds_leafEndpoints_iff, isItem_leaf_iff listed]
      | some value =>
        -- Only a value that counts as absent will do, since the object is no folder with items.
        have noList : ∀ items, value ≠ .array items := by
          rintro items rfl
          cases found.symm.trans (folderItems?_object listed)
        rw [loadFolder_of_get?_eq_some _ listed, succeeds_loadItems_iff]
        constructor
        · rintro (absent | ⟨items, isList, -⟩)
          · exact .emptyFolder listed absent
          · exact absurd isList (noList items)
        · intro isItem
          cases isItem with
          | folder other =>
            exact absurd (Option.some.inj (listed.symm.trans other)) (noList _)
          | emptyFolder other absent =>
            obtain rfl := Option.some.inj (listed.symm.trans other)
            exact .inl absent
          | request noFolder | other noFolder => cases listed.symm.trans noFolder
    | array items =>
      rw [loadItem]
      refine iff_of_false ?_ fun isItem => by cases isItem
      split <;> exact Report.not_succeeds_fail _
    | string | null | bool | int | double =>
      rw [loadItem]
      · exact iff_of_false (Report.not_succeeds_fail _) fun isItem => by cases isItem
      all_goals simp

end Accord.Contract
