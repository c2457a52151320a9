import Accord.Proofs.Contract.Form

/-!
# `Accord.Proofs.Contract.Replacement`: another value in the place of an item

A `Position` is a place for an item in a list of items, or in the list of a folder at any depth.
What remains of a collection without its folders is what stands before the position, the item
there and what stands behind it (`flatMap_opened_fill`), so the endpoints of a collection are
cut in the same way.

`load_of_replaced` puts another value in the place of one item of a collection that is loaded.
The endpoints of the other items stay as they are when the value is of the form of an item. When
it is not, the collection is not loaded (`load_fails_of_object_body`).
-/

set_option autoImplicit false

namespace Accord.Contract

/-- A place for an item in a list of items. -/
inductive Position where
  /-- In the list itself. -/
  | here (before after : List Json)
  /-- In the list of items of a folder, whose other members are given. -/
  | inside (before : List Json) (folder : List (String × Json)) (position : Position)
      (after : List Json)

namespace Position

/-- The list with an item in the place. -/
def fill : Position → Json → List Json
  | .here before after, item => before ++ item :: after
  | .inside before folder position after, item =>
    before ++ .object (withItems folder (position.fill item)) :: after

/-- What remains of the items before the place. -/
def earlier : Position → List Json
  | .here before _ => before.flatMap opened
  | .inside before _ position _ => before.flatMap opened ++ position.earlier

/-- What remains of the items behind the place. -/
def later : Position → List Json
  | .here _ after => after.flatMap opened
  | .inside _ _ position after => position.later ++ after.flatMap opened

/-- What remains of the list is what remains before the place, of the item and behind it. -/
theorem flatMap_opened_fill (position : Position) (item : Json) :
    (position.fill item).flatMap opened =
      position.earlier ++ (opened item ++ position.later) := by
  induction position with
  | here before after =>
    simp only [fill, earlier, later, List.flatMap_append, List.flatMap_cons]
  | inside before folder position after ih =>
    simp only [fill, earlier, later, List.flatMap_append, List.flatMap_cons,
      opened_of_folder (folderItems?_withItems _ _), ih, List.append_assoc]

/-- A collection is loaded in three parts: before the place, the item and behind it. -/
theorem load_fill [Json.Nesting] (position : Position) {item : Json}
    {collection : List (String × Json)}
    (listed : Entries.get? collection "item" = some (.array (position.fill item))) :
    load (.object collection) =
      (Report.gather loadItem position.earlier).andThen fun before =>
        (loadItem item).andThen fun own =>
          (Report.gather loadItem position.later).andThen fun after =>
            .ok (before ++ own ++ after) := by
  rw [load_eq_gather, entries_of_listed listed, flatMap_opened_fill, Report.gather_append]
  simp only [Report.gather_append, ← loadItem_eq_gather_opened, Report.andThen_assoc,
    Report.ok_andThen, List.append_assoc]

end Position

/-- **Another value in the place of an item** of a collection that is loaded, at any depth: the
value is loaded and the endpoints of all other items stay as they are, if it is of the form of an
item; otherwise its fault is that of the collection. -/
theorem load_of_replaced [Json.Nesting] {collection : List (String × Json)} {position : Position}
    {old : Json}
    {endpoints : List ContractEndpoint}
    (listed : Entries.get? collection "item" = some (.array (position.fill old)))
    (accepted : (load (.object collection)).outcome = .ok endpoints) :
    ∃ before own after, endpoints = before ++ own ++ after ∧
      (loadItem old).outcome = .ok own ∧
      ∀ new,
        (IsItem new → ∃ loaded, (loadItem new).outcome = .ok loaded ∧
          (load (.object (withItems collection (position.fill new)))).outcome =
            .ok (before ++ loaded ++ after)) ∧
        (¬IsItem new → ∃ fault, (loadItem new).outcome = .error fault ∧
          (load (.object (withItems collection (position.fill new)))).outcome =
            .error fault) := by
  -- The collection is loaded, so its three parts are.
  rw [position.load_fill listed] at accepted
  obtain ⟨before, earlier, accepted⟩ := Report.outcome_andThen_eq_ok_iff.1 accepted
  obtain ⟨own, loadedOld, accepted⟩ := Report.outcome_andThen_eq_ok_iff.1 accepted
  obtain ⟨after, later, accepted⟩ := Report.outcome_andThen_eq_ok_iff.1 accepted
  refine ⟨before, own, after, (Except.ok.inj accepted).symm, loadedOld, fun new => ?_⟩
  rw [position.load_fill (get?_withItems collection (position.fill new)),
    Report.outcome_andThen earlier, ← succeeds_loadItem_iff]
  -- The part before the place is loaded in any case; the new value decides about the rest.
  constructor
  · rintro ⟨loaded, ends⟩
    refine ⟨loaded, ends, ?_⟩
    rw [Report.outcome_andThen ends, Report.outcome_andThen later]
    rfl
  · intro refused
    cases ends : (loadItem new).outcome with
    | ok loaded => exact absurd ⟨loaded, ends⟩ refused
    | error fault => exact ⟨fault, rfl, Report.outcome_andThen_error ends _⟩

/-! ### A body that is no text -/

section Users

/-- Room enough for what is read here. -/
local instance usersNesting : Json.Nesting :=
  ⟨8⟩

/-- A request to add a user, with what is put for its body. -/
def addUser (raw : Json) : Json :=
  .object [("name", .string "Add user"),
    ("request", .object [("method", .string "POST"), ("url", .string "/users"),
      ("body", .object [("mode", .string "raw"), ("raw", raw)])])]

/-- The place of the request, behind another request. -/
def behindList : Position :=
  .here [page "List users" "/users"] []

/-- A collection with the two requests. -/
def users (raw : Json) : List (String × Json) :=
  [("item", .array (behindList.fill (addUser raw)))]

/-- In the place of the request a folder with another page may stand. -/
theorem load_users_of_folder :
    ∃ before own after,
      [⟨"List users", "GET", "users", .null, .null⟩, ⟨"Add user", "POST", "users", .null, .null⟩] =
        before ++ own ++ after ∧
      (loadItem (addUser (.string "no body"))).outcome = .ok own ∧
      ∃ loaded, (loadItem (folder "More" (.array [page "Health" "/health"]))).outcome = .ok loaded ∧
        (load (.object (withItems (users (.string "no body"))
          (behindList.fill (folder "More" (.array [page "Health" "/health"])))))).outcome =
          .ok (before ++ loaded ++ after) := by
  have accepted : (load (.object (users (.string "no body")))).outcome =
      .ok [⟨"List users", "GET", "users", .null, .null⟩,
        ⟨"Add user", "POST", "users", .null, .null⟩] := by rfl
  have listed : Entries.get? (users (.string "no body")) "item" =
      some (.array (behindList.fill (addUser (.string "no body")))) := rfl
  obtain ⟨before, own, after, cut, loadedOld, replaced⟩ := load_of_replaced listed accepted
  refine ⟨before, own, after, cut, loadedOld, (replaced _).1 ?_⟩
  refine .folder rfl fun item member => ?_
  obtain rfl := List.mem_singleton.1 member
  exact .request rfl rfl .url (.absent rfl) (.inr ⟨_, rfl⟩)

/-- A request whose raw body is an object and no text takes the other request down with it. -/
theorem load_fails_of_object_body :
    (load (.object (users (.string "no body")))).outcome =
      .ok [⟨"List users", "GET", "users", .null, .null⟩,
        ⟨"Add user", "POST", "users", .null, .null⟩] ∧
    (load (.object (withItems (users (.string "no body"))
      (behindList.fill (addUser (.object [("name", .string "A")])))))).outcome =
      .error .notText := by
  exact ⟨rfl, rfl⟩

end Users

end Accord.Contract
