import Accord.Proofs.Contract.Leaf
import Accord.Proofs.Table
import Mathlib.Data.List.Forall2

/-!
# `Accord.Proofs.Contract.Folder`: folders of a collection are transparent

A folder is an item with a list of items of its own. `opened` puts in the place of every folder,
at any depth, what it holds. `load_eq_gather` says that a collection is loaded as the list of
what remains, one item after the other: with the endpoints and the notes in that order, and with
the first error.

* `OpensFolder` is one step of it: a folder somewhere in the tree gives way to its items. The
  step does not change what remains in the end (`flatMap_opened_of_opensFolder`).
* `Accounts` is what a run that ends well leaves: every request makes an endpoint, every object
  that is no request is noted, and nothing else leaves anything behind. `accounts_gather`
  carries it through a list of items.

`load_without_folders` puts these together. The collection is an item like others here: the
outermost folder.
-/

set_option autoImplicit false

namespace Accord.Contract

/-! ### Folders -/

/-- The items of a folder: an object that has a list of items, or `null` in its place. -/
def folderItems? : Json → Option (List Json)
  | .object members =>
    match Entries.get? members "item" with
    | some (.array items) => some items
    | some .null => some []
    | _ => none
  | _ => none

/-- An object whose `item` is a list is a folder of that list. -/
theorem folderItems?_object {members : List (String × Json)} {items : List Json}
    (h : Entries.get? members "item" = some (.array items)) :
    folderItems? (.object members) = some items := by
  rw [folderItems?, h]

/-- What a folder has under its name for items. -/
theorem folderItems?_eq_some_iff {item : Json} {items : List Json} :
    folderItems? item = some items ↔
      ∃ members, item = .object members ∧
        (Entries.get? members "item" = some (.array items) ∨
          Entries.get? members "item" = some .null ∧ items = []) := by
  cases item with
  | object members =>
    rw [folderItems?]
    split
    · next listed found => simp [found]
    · next found => simp [found, eq_comm]
    · next other absent => simp_all
  | _ => simp [folderItems?]

/-- What a list of members holds is smaller than the list, which is why going into folders ends. -/
theorem sizeOf_lt_of_get? {members : List (String × Json)} {name : String} {value : Json}
    (h : Entries.get? members name = some value) : sizeOf value < sizeOf members := by
  induction members with
  | nil => cases h
  | cons entry rest ih =>
    obtain ⟨own, held⟩ := entry
    rw [Entries.get?] at h
    simp only [List.cons.sizeOf_spec, Prod.mk.sizeOf_spec] at h ⊢
    -- Either this entry is the one, or it is one of the rest.
    split at h
    · obtain rfl := Option.some.inj h
      omega
    · have := ih h
      omega

/-- What is in a folder is smaller than the folder. -/
theorem sizeOf_lt_of_mem_folderItems? {item inner : Json} {items : List Json}
    (h : folderItems? item = some items) (member : inner ∈ items) : sizeOf inner < sizeOf item := by
  obtain ⟨members, rfl, found | ⟨_, rfl⟩⟩ := folderItems?_eq_some_iff.1 h
  · have := sizeOf_lt_of_get? found
    have := List.sizeOf_lt_of_mem member
    simp only [Json.array.sizeOf_spec, Json.object.sizeOf_spec] at *
    omega
  · cases member

/-- An item with what it holds in its place, if it is a folder, and so on inside of it. -/
def opened (item : Json) : List Json :=
  match _h : folderItems? item with
  | some items => items.attach.flatMap fun inner => opened inner.1
  | none => [item]
termination_by sizeOf item
decreasing_by exact sizeOf_lt_of_mem_folderItems? _h inner.2

/-- A folder is replaced by what its items open to, in their order. -/
theorem opened_of_folder {item : Json} {items : List Json} (h : folderItems? item = some items) :
    opened item = items.flatMap opened := by
  rw [opened]
  split
  · next found =>
    obtain rfl := Option.some.inj (h.symm.trans found)
    simp only [List.flatMap_subtype, List.unattach_attach]
  · next found =>
    rw [h] at found
    cases found

/-- Everything else stays as it is. -/
theorem opened_of_not_folder {item : Json} (h : folderItems? item = none) :
    opened item = [item] := by
  rw [opened]
  split
  · next found =>
    rw [h] at found
    cases found
  · rfl

/-- Nothing that remains is a folder. -/
theorem folderItems?_of_mem_opened {item inner : Json} (h : inner ∈ opened item) :
    folderItems? inner = none := by
  induction item using opened.induct with
  | case1 item items found ih =>
    rw [opened_of_folder found, List.mem_flatMap] at h
    obtain ⟨child, member, deeper⟩ := h
    exact ih ⟨child, member⟩ deeper
  | case2 item found =>
    rw [opened_of_not_folder found, List.mem_singleton] at h
    exact h ▸ found

/-! ### Loading goes through what remains -/

/-- The items of a list are loaded one after the other. -/
theorem loadAll_eq_gather [Json.Nesting] (items : List Json) :
    loadAll items = Report.gather loadItem items := by
  induction items with
  | nil => rw [loadAll, Report.gather]
  | cons item rest ih =>
    rw [loadAll, ih]
    rfl

/-- An object with something under the name for items is loaded as that. -/
theorem loadFolder_of_get?_eq_some [Json.Nesting] (item : List (String × Json))
    {members : List (String × Json)}
    {value : Json} (h : Entries.get? members "item" = some value) :
    loadFolder item members = loadItems value := by
  induction members with
  | nil => cases h
  | cons entry rest ih =>
    obtain ⟨name, held⟩ := entry
    rw [Entries.get?] at h
    split at h
    · next same =>
      obtain rfl := Option.some.inj h
      rw [loadFolder, if_pos same]
    · next other => rw [loadFolder, if_neg other, ih h]

/-- A folder is loaded as the list of its items. -/
theorem loadItem_of_folder [Json.Nesting] {item : Json} {items : List Json}
    (h : folderItems? item = some items) :
    loadItem item = Report.gather loadItem items := by
  obtain ⟨members, rfl, found | ⟨found, rfl⟩⟩ := folderItems?_eq_some_iff.1 h
  · rw [loadItem, loadFolder_of_get?_eq_some _ found, loadItems, loadAll_eq_gather]
  · rw [loadItem, loadFolder_of_get?_eq_some _ found, loadItems, Report.gather]

/-- An item is loaded as what remains of it. The induction goes into the folders. -/
theorem loadItem_eq_gather_opened [Json.Nesting] (item : Json) :
    loadItem item = Report.gather loadItem (opened item) := by
  induction item using opened.induct with
  | case1 item items found ih =>
    rw [loadItem_of_folder found, opened_of_folder found, Report.gather_flatMap]
    exact Report.gather_congr fun inner member => ih ⟨inner, member⟩
  | case2 item found => rw [opened_of_not_folder found, Report.gather_singleton]

/-- What remains of a collection without its folders. Without a list of items there is nothing. -/
def entries (collection : List (String × Json)) : List Json :=
  if (Entries.get? collection "item").isSome then opened (.object collection) else []

/-- The entries of a collection are those of its items. -/
theorem entries_of_listed {collection : List (String × Json)} {items : List Json}
    (listed : Entries.get? collection "item" = some (.array items)) :
    entries collection = items.flatMap opened := by
  rw [entries, listed, Option.isSome_some, if_pos rfl,
    opened_of_folder (folderItems?_object listed)]

/-- A collection is loaded as the list of what remains of it: endpoints and notes follow this order,
and the first error in this order ends the run. -/
theorem load_eq_gather [Json.Nesting] (collection : List (String × Json)) :
    load (.object collection) = Report.gather loadItem (entries collection) := by
  have root : load (.object collection) =
      loadItems ((Entries.get? collection "item").getD .null) := by
    rw [load, member, Report.ofExcept_ok, Report.bind_eq, Report.ok_andThen]
  rw [root, entries]
  cases found : Entries.get? collection "item" with
  | none => rw [Option.getD_none, loadItems]; rfl
  | some value =>
    rw [Option.isSome_some, if_pos rfl, ← loadItem_eq_gather_opened, loadItem,
      loadFolder_of_get?_eq_some _ found, Option.getD_some]

/-! ### Opening one folder -/

/-- An object with another list of items. -/
def withItems (members : List (String × Json)) (items : List Json) : List (String × Json) :=
  Entries.insert members "item" (.array items)

/-- A collection with other items holds these. -/
theorem get?_withItems (members : List (String × Json)) (items : List Json) :
    Entries.get? (withItems members items) "item" = some (.array items) :=
  Entries.get?_insert_self _ _ _

/-- A collection with other items is a folder of these. -/
theorem folderItems?_withItems (members : List (String × Json)) (items : List Json) :
    folderItems? (.object (withItems members items)) = some items :=
  folderItems?_object (get?_withItems members items)

/-- One folder, at any place in a list of items and at any depth, gives way to its items. -/
inductive OpensFolder : List Json → List Json → Prop where
  /-- The folder stands in the list itself. -/
  | here (before after : List Json) {folder : Json} {children : List Json}
      (isFolder : folderItems? folder = some children) :
      OpensFolder (before ++ folder :: after) (before ++ children ++ after)
  /-- The folder stands in a list that a folder of this list holds. -/
  | inside (before after : List Json) {members : List (String × Json)}
      {children changed : List Json} (isFolder : folderItems? (.object members) = some children)
      (step : OpensFolder children changed) :
      OpensFolder (before ++ .object members :: after)
        (before ++ .object (withItems members changed) :: after)

/-- The step does not change what remains in the end. -/
theorem flatMap_opened_of_opensFolder {items changed : List Json} (h : OpensFolder items changed) :
    changed.flatMap opened = items.flatMap opened := by
  induction h with
  | here before after isFolder =>
    simp only [List.flatMap_append, List.flatMap_cons, opened_of_folder isFolder, List.append_assoc]
  | inside before after isFolder step ih =>
    simp only [List.flatMap_append, List.flatMap_cons, opened_of_folder isFolder,
      opened_of_folder (folderItems?_withItems _ _), ih]

/-- A collection is loaded in the same way when one of its folders has given way to its items. -/
theorem load_of_opensFolder [Json.Nesting] {collection : List (String × Json)}
    {items changed : List Json}
    (listed : Entries.get? collection "item" = some (.array items))
    (step : OpensFolder items changed) :
    load (.object (withItems collection changed)) = load (.object collection) := by
  rw [load_eq_gather, load_eq_gather, entries_of_listed listed,
    entries_of_listed (get?_withItems collection changed), flatMap_opened_of_opensFolder step]

/-! ### The notes of a leaf -/

/-- Whether an event says that an item is left out. -/
def isSkipNote : Event → Bool
  | .itemSkipped _ => true
  | _ => false

/-- No event of a stage says that an item is left out. -/
abbrev SkipsNothing {α : Type} (report : Report Fault α) : Prop :=
  report.Notes fun event => isSkipNote event = false

/-- A note of another kind skips nothing. -/
theorem skipsNothing_note {event : Event} (h : isSkipNote event = false) :
    SkipsNothing (Report.note event) :=
  Report.notes_note h

/-- A body skips nothing, whether it is read or noted as unreadable. -/
theorem skipsNothing_bodyOrNote [Json.Nesting] (body : Json) {problem : Event}
    (h : isSkipNote problem = false) : SkipsNothing (bodyOrNote body problem) :=
  (Report.notes_ofExcept _).andThen fun decoded => by
    cases decoded with
    | some value => exact Report.notes_ok value
    | none => exact (skipsNothing_note h).andThen fun _ => Report.notes_ok _

/-- The body of a request skips no item. -/
theorem skipsNothing_requestBody [Json.Nesting] (body : Json) (name : String) :
    SkipsNothing (requestBody body name) := by
  unfold requestBody
  split
  · exact Report.notes_ok _
  · refine (Report.notes_ofExcept _).andThen fun mode => ?_
    refine (Report.notes_ofExcept _).andThen fun raw => ?_
    split
    · split
      · exact skipsNothing_bodyOrNote raw rfl
      · exact Report.notes_ok _
    · exact Report.notes_ok _

/-- The example of a response skips no item. -/
theorem skipsNothing_responseBody [Json.Nesting] (responses : Json) (name : String) :
    SkipsNothing (responseBody responses name) :=
  (Report.notes_ofExcept _).andThen fun example? => by
    cases example? with
    | none => exact (skipsNothing_note rfl).andThen fun _ => Report.notes_ok _
    | some found =>
      refine (Report.notes_ofExcept _).andThen fun body => ?_
      split
      · exact skipsNothing_bodyOrNote body rfl
      · exact (skipsNothing_note rfl).andThen fun _ => Report.notes_ok _

/-- An object with a request is never said to be left out. -/
theorem skipsNothing_endpointOf [Json.Nesting] (item : List (String × Json)) (request : Json) :
    SkipsNothing (endpointOf item request) := by
  unfold endpointOf
  refine (Report.notes_ofExcept _).andThen fun method => ?_
  refine (Report.notes_ofExcept _).andThen fun path => ?_
  refine (Report.notes_ofExcept _).andThen fun body => ?_
  refine (skipsNothing_requestBody _ _).andThen fun requestBody => ?_
  refine (skipsNothing_responseBody _ _).andThen fun responseBody => ?_
  split
  · exact Report.notes_ok _
  · exact Report.notes_fail _

/-! ### Runs that end well -/

/-- The members of an object that has nothing under the name for items. -/
def leafMembers? : Json → Option (List (String × Json))
  | .object members => if (Entries.get? members "item").isNone then some members else none
  | _ => none

/-- The objects of a collection that are no folders, in the order of the document. -/
def leaves (collection : List (String × Json)) : List (List (String × Json)) :=
  (entries collection).filterMap leafMembers?

/-- The leaves that have a request, each with it. -/
def requests (leaves : List (List (String × Json))) : List (List (String × Json) × Json) :=
  leaves.filterMap fun leaf => (Entries.get? leaf "request").map fun request => (leaf, request)

/-- The notes of the leaves that have none. -/
def skipNotes (leaves : List (List (String × Json))) : List Event :=
  (leaves.filter fun leaf => (Entries.get? leaf "request").isNone).map fun leaf =>
    .itemSkipped ((Entries.get? leaf "name").getD (.string "<unnamed>")).display

/-- The requests of two lists of leaves are those of the first and then those of the second. -/
theorem requests_append (first second : List (List (String × Json))) :
    requests (first ++ second) = requests first ++ requests second :=
  List.filterMap_append

/-- The same holds of the notes about leaves without a request. -/
theorem skipNotes_append (first second : List (List (String × Json))) :
    skipNotes (first ++ second) = skipNotes first ++ skipNotes second := by
  rw [skipNotes, List.filter_append, List.map_append, skipNotes, skipNotes]

/-- An endpoint is what a leaf with a request is read as. -/
def IsReadAs [Json.Nesting] (leaf : List (String × Json) × Json) (endpoint : ContractEndpoint) :
    Prop :=
  (endpointOf leaf.1 leaf.2).outcome = .ok endpoint

/-- A run that ends well gave these endpoints: one for every leaf with a request, and a note for
every other leaf. -/
structure Accounts [Json.Nesting] (leaves : List (List (String × Json)))
    (report : Report Fault (List ContractEndpoint)) (endpoints : List ContractEndpoint) : Prop where
  outcome : report.outcome = .ok endpoints
  read : List.Forall₂ IsReadAs (requests leaves) endpoints
  skipped : report.events.filter isSkipNote = skipNotes leaves

/-- Two readings that account for their leaves account for both lists together. -/
theorem Accounts.andThen [Json.Nesting] {first second : List (List (String × Json))}
    {report rest : Report Fault (List ContractEndpoint)} {found more : List ContractEndpoint}
    (h : Accounts first report found) (h' : Accounts second rest more) :
    Accounts (first ++ second)
      (report.andThen fun found => rest.andThen fun more => .ok (found ++ more))
        (found ++ more) where
  outcome := by
    rw [Report.outcome_andThen h.outcome, Report.outcome_andThen h'.outcome, Report.outcome_ok]
  read := by
    rw [requests_append]
    exact List.rel_append h.read h'.read
  skipped := by
    rw [Report.events_andThen h.outcome, Report.events_andThen h'.outcome, Report.events_ok,
      List.append_nil, List.filter_append, h.skipped, h'.skipped, skipNotes_append]

/-- A leaf is loaded as one. -/
theorem loadItem_of_leaf [Json.Nesting] {item : Json} {leaf : List (String × Json)}
    (h : leafMembers? item = some leaf) : loadItem item = leafEndpoints leaf := by
  cases item with
  | object members =>
    rw [leafMembers?] at h
    split at h
    · next absent =>
      obtain rfl := Option.some.inj h
      rw [loadItem, loadFolder_of_get?_eq_none _ (Option.isNone_iff_eq_none.1 absent)]
    · cases h
  | _ => cases h

/-- A leaf is accounted for: by its endpoint if it holds a request, and by a note otherwise. -/
theorem accounts_leafEndpoints [Json.Nesting] {leaf : List (String × Json)}
    {found : List ContractEndpoint}
    (h : (leafEndpoints leaf).outcome = .ok found) :
    Accounts [leaf] (leafEndpoints leaf) found := by
  cases held : Entries.get? leaf "request" with
  | some request =>
    have read : leafEndpoints leaf =
        (endpointOf leaf request).andThen fun endpoint => .ok [endpoint] := by
      rw [leafEndpoints, held]
      rfl
    rw [read] at h
    obtain ⟨endpoint, ended, same⟩ := Report.outcome_andThen_eq_ok_iff.1 h
    obtain rfl := Except.ok.inj same
    refine ⟨read ▸ h, ?_, ?_⟩
    · have requested : requests [leaf] = [(leaf, request)] := by simp [requests, held]
      rw [requested]
      exact .cons ended .nil
    · have nothing : skipNotes [leaf] = [] := by simp [skipNotes, held]
      rw [read, Report.events_andThen ended, Report.events_ok, List.append_nil, nothing,
        List.filter_eq_nil_iff]
      intro event member
      simp [skipsNothing_endpointOf leaf request event member]
  | none =>
    have noted : leafEndpoints leaf = ⟨skipNotes [leaf], .ok []⟩ := by
      rw [leafEndpoints, held, skipNotes, List.filter_cons_of_pos (by rw [held]; rfl)]
      rfl
    rw [noted] at h ⊢
    obtain rfl := Except.ok.inj h
    refine ⟨rfl, ?_, ?_⟩
    · simp [requests, held]
    · simp [skipNotes, held, isSkipNote]

/-- Texts in the place of items end the run, unless there are none. -/
theorem textItems_of_ok {texts : List String} {found : List ContractEndpoint}
    (h : (textItems texts).outcome = .ok found) : textItems texts = .ok [] := by
  cases texts with
  | nil => rfl
  | cons => cases h

/-- A value that is no list ends the run in the place of items, unless it counts as absent. -/
theorem loadItems_of_ok [Json.Nesting] {value : Json} (unlisted : ∀ items, value ≠ .array items)
    {found : List ContractEndpoint} (h : (loadItems value).outcome = .ok found) :
    loadItems value = .ok [] := by
  cases value with
  | array items => exact absurd rfl (unlisted items)
  | object members => exact textItems_of_ok h
  | string text => exact textItems_of_ok h
  | null => rfl
  | bool value =>
    cases value with
    | false => rfl
    | true => cases h
  | int | double =>
    rw [loadItems] at h ⊢
    split at h
    · next zero => rw [if_pos zero]
    · cases h

/-- What is neither a folder nor a leaf leaves nothing behind, unless it ends the run. -/
theorem loadItem_of_neither [Json.Nesting] {item : Json} (noFolder : folderItems? item = none)
    (noLeaf : leafMembers? item = none) {found : List ContractEndpoint}
    (h : (loadItem item).outcome = .ok found) : loadItem item = .ok [] := by
  cases item with
  | object members =>
    obtain ⟨value, held⟩ : ∃ value, Entries.get? members "item" = some value := by
      simpa [leafMembers?, Option.ne_none_iff_exists'] using noLeaf
    rw [loadItem, loadFolder_of_get?_eq_some _ held] at h ⊢
    refine loadItems_of_ok ?_ h
    rintro items rfl
    rw [folderItems?_object held] at noFolder
    cases noFolder
  | array items =>
    rw [loadItem] at h
    split at h <;> cases h
  | _ => cases h

/-- Going through items that are no folders accounts for the leaves among them. -/
theorem accounts_gather [Json.Nesting] {items : List Json}
    (noFolders : ∀ item ∈ items, folderItems? item = none)
    {endpoints : List ContractEndpoint}
    (h : (Report.gather loadItem items).outcome = .ok endpoints) :
    Accounts (items.filterMap leafMembers?) (Report.gather loadItem items) endpoints := by
  induction items generalizing endpoints with
  | nil =>
    obtain rfl := Except.ok.inj h
    exact ⟨rfl, .nil, rfl⟩
  | cons item rest ih =>
    obtain ⟨found, first, later⟩ := Report.outcome_andThen_eq_ok_iff.1 h
    obtain ⟨more, second, same⟩ := Report.outcome_andThen_eq_ok_iff.1 later
    obtain rfl := Except.ok.inj same
    have others := ih (fun later member => noFolders later (List.mem_cons_of_mem _ member)) second
    rw [Report.gather_cons]
    -- An item is a leaf, which is accounted for, or neither folder nor leaf, which gives nothing.
    cases kind : leafMembers? item with
    | some leaf =>
      rw [List.filterMap_cons_some kind]
      rw [loadItem_of_leaf kind] at first ⊢
      exact (accounts_leafEndpoints first).andThen others
    | none =>
      have nothing := loadItem_of_neither (noFolders item List.mem_cons_self) kind first
      rw [nothing] at first ⊢
      obtain rfl := Except.ok.inj first
      rw [List.filterMap_cons_none kind, Report.ok_andThen]
      simpa using others

/-- What remains of a collection holds no folder. -/
theorem folderItems?_of_mem_entries {collection : List (String × Json)} {item : Json}
    (h : item ∈ entries collection) : folderItems? item = none := by
  rw [entries] at h
  split at h
  · exact folderItems?_of_mem_opened h
  · cases h

/-- **Folders are transparent**: a collection is loaded as the list of what remains of it without
folders, one item after the other. A run that ends well gives the endpoints of the leaves with a
request, in their order, and notes the other leaves, in their order. A folder at any place that
gives way to its items changes nothing about the run. -/
theorem load_without_folders [Json.Nesting] (collection : List (String × Json)) :
    load (.object collection) = Report.gather loadItem (entries collection) ∧
    (∀ endpoints, (load (.object collection)).outcome = .ok endpoints →
      Accounts (leaves collection) (load (.object collection)) endpoints) ∧
    ∀ items changed, Entries.get? collection "item" = some (.array items) →
      OpensFolder items changed →
      load (.object (withItems collection changed)) = load (.object collection) := by
  refine ⟨load_eq_gather collection, fun endpoints ended => ?_, fun items changed listed step => ?_⟩
  · rw [load_eq_gather] at ended ⊢
    exact accounts_gather (fun item member => folderItems?_of_mem_entries member) ended
  · exact load_of_opensFolder listed step

/-! ### A folder in a folder -/

section Site

/-- Room enough for what is read here. -/
local instance siteNesting : Json.Nesting :=
  ⟨8⟩

/-- A request for a page. -/
def page (name path : String) : Json :=
  .object [("name", .string name), ("request", .string path)]

/-- A folder. -/
def folder (name : String) (items : Json) : Json :=
  .object [("name", .string name), ("item", items)]

/-- The items of a folder, with what is put for the folder inside of it. -/
def userItems (admin : List Json) : List Json :=
  [page "List" "/users"] ++ admin ++ [folder "Drafts" .null]

/-- The items of a collection with that folder. -/
def siteItems (admin : List Json) : List Json :=
  [] ++ folder "Users" (.array (userItems admin)) ::
    [.object [("name", .string "Notes")], page "Health" "/health"]

/-- The folder inside. -/
def adminFolder : Json :=
  folder "Admin" (.array [page "Ban" "/users/ban", page "Lift" "/users/lift"])

/-- The collection. -/
def site : List (String × Json) :=
  [("item", .array (siteItems [adminFolder]))]

/-- The collection has four endpoints and an item that is left out, and is loaded in the same
way without the folder inside. -/
theorem site_without_folders :
    Accounts (leaves site) (load (.object site))
      [⟨"List", "GET", "users", .null, .null⟩, ⟨"Ban", "GET", "users/ban", .null, .null⟩,
        ⟨"Lift", "GET", "users/lift", .null, .null⟩, ⟨"Health", "GET", "health", .null, .null⟩] ∧
    load (.object (withItems site
        (siteItems [page "Ban" "/users/ban", page "Lift" "/users/lift"]))) =
      load (.object site) := by
  obtain ⟨-, ended, transparent⟩ := load_without_folders site
  refine ⟨ended _ (by rfl), transparent _ _ rfl ?_⟩
  exact .inside [] _ rfl (.here [page "List" "/users"] [folder "Drafts" .null] rfl)

end Site

end Accord.Contract
