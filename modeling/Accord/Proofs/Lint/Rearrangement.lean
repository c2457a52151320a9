import Accord.Proofs.Lint.Accounting

/-!
# `Accord.Proofs.Lint.Rearrangement`: the order inside an example does not matter

An example object is `Rearranged` when its members stand in another order, and the items of the
arrays under its names too. The order of the members shows in one place: the names that are too
much are listed as the example has them. Everything else goes by the declared properties, which
ask the example for what it has under a name; and an array is checked by whether it is empty and
by the types that occur among its items (`itemTypes_of_perm`).

`checkBody_of_rearranged` says this of what is found about a body.
-/

set_option autoImplicit false

namespace Accord.Lint

open Accord.Types

/-! ### Examples in another order -/

/-- The same value, or arrays with the same items in another order. -/
inductive SameItems : Json → Json → Prop where
  | refl (value : Json) : SameItems value value
  | array {items others : List Json} : items.Perm others → SameItems (.array items) (.array others)

/-- The members of an object in another order, with the items of the arrays among their values in
another order. -/
def Rearranged (sample other : List (String × Json)) : Prop :=
  ∃ between, Entries.Alike SameItems sample between ∧ between.Perm other

namespace Rearranged

variable {sample other : List (String × Json)}

/-- The names are the same, in another order. -/
theorem perm_keys (h : Rearranged sample other) :
    (Entries.keys sample).Perm (Entries.keys other) := by
  obtain ⟨between, alike, perm⟩ := h
  rw [alike.keys_eq]
  exact perm.map Prod.fst

/-- What is held under a name is the same, up to the order of the items. -/
theorem rel_get? (h : Rearranged sample other) (distinct : (Entries.keys sample).Nodup)
    (name : String) :
    Option.Rel SameItems (Entries.get? sample name) (Entries.get? other name) := by
  obtain ⟨between, alike, perm⟩ := h
  rw [← Entries.get?_of_perm perm (alike.keys_eq ▸ distinct)]
  exact alike.rel_get? name

end Rearranged

/-! ### Values -/

section Values

variable {registry : Registry} {declared : Descriptor}

/-- The types that occur in an array do not show the order of the items. -/
theorem itemTypes_of_perm {items others : List Json} (perm : items.Perm others) :
    itemTypes items = itemTypes others := by
  rw [itemTypes, itemTypes]
  exact List.filter_congr fun name _ => perm.any_eq

/-- The items of an array are judged alike in any order. -/
theorem checkArray_of_perm {items others : List Json} (perm : items.Perm others) :
    checkArray registry declared items = checkArray registry declared others := by
  have empty : items.isEmpty = others.isEmpty := by
    rw [Bool.eq_iff_iff, List.isEmpty_iff, List.isEmpty_iff]
    exact ⟨fun none => (none ▸ perm).nil_eq.symm, fun none => (none ▸ perm).eq_nil⟩
  simp only [checkArray, itemTypes_of_perm perm, empty]

/-- What is wrong with a value does not depend on the order of its items. An enumeration has
nothing to say about arrays. -/
theorem checkValue_of_sameItems {value other : Json} (h : SameItems value other) :
    checkValue registry declared value = checkValue registry declared other := by
  cases h with
  | refl => rfl
  | array perm =>
    have unchecked : ∀ allowed items, checkEnum allowed (.array items) = none := fun _ _ => rfl
    simp only [checkValue, unchecked, checkArray_of_perm perm]

end Values

/-! ### The three blocks -/

section Blocks

variable {registry : Registry} {definition : Definition} {endpoint : String} {side : Side}
  {sample other : List (String × Json)}

/-- The names that a sample lacks do not depend on the order of its names. -/
theorem checkMissing_of_rearranged (h : Rearranged sample other) (expected : List String) :
    checkMissing endpoint side expected (Entries.keys sample) =
      checkMissing endpoint side expected (Entries.keys other) := by
  have lacked : missingNames expected (Entries.keys sample) =
      missingNames expected (Entries.keys other) := by
    rw [missingNames_eq, missingNames_eq]
    exact List.filter_congr fun name _ => decide_eq_decide.2 (not_congr h.perm_keys.mem_iff)
  rw [checkMissing, checkMissing, lacked]

/-- The values are judged in the order of the type, and each alike. -/
theorem checkValues_of_rearranged (h : Rearranged sample other)
    (distinct : (Entries.keys sample).Nodup) :
    checkValues endpoint side registry definition sample =
      checkValues endpoint side registry definition other := by
  refine List.filterMap_congr fun property _ => ?_
  have held := h.rel_get? distinct property.1
  rw [checkProperty_eq, checkProperty_eq]
  -- Only what the two samples hold under the name counts.
  generalize Entries.get? sample property.1 = value at held
  generalize Entries.get? other property.1 = value' at held
  cases held with
  | none => rfl
  | some same => simp only [Option.bind_some, checkValue_of_sameItems same]

/-- The names that are too much are the same, in the order of the example. -/
theorem undeclaredNames_perm (h : Rearranged sample other) :
    (undeclaredNames definition sample).Perm (undeclaredNames definition other) :=
  h.perm_keys.filter _

/-- What a sample has too much is one finding, with the names in the order of the sample. -/
theorem checkExtra_eq :
    checkExtra endpoint side definition.properties.keys (Entries.keys sample) =
      if undeclaredNames definition sample = [] then []
      else [⟨endpoint, .extraProperties side (undeclaredNames definition sample)
        definition.properties.keys⟩] := by
  rw [checkExtra, missingNames_eq, undeclaredNames]
  simp only [List.isEmpty_iff]

end Blocks

/-! ### Bodies -/

/-- A finding about an example and one about another example show the same, but for the names
that are too much: each lists them as its own example has them. -/
structure ShowsTheSame (registry : Registry) (reference : Option TypeReference) (endpoint : String)
    (side : Side) (sample other : List (String × Json)) (finding finding' : Finding) : Prop where
  sameEndpoint : finding.endpoint = finding'.endpoint
  sameKind : finding.kind = finding'.kind
  sameMismatch : finding.mismatch = finding'.mismatch
  sameMessage : finding.kind ≠ .extraProperty → finding.message = finding'.message
  extra : finding.kind = .extraProperty → ∃ declared definition, reference = some declared ∧
    registry.resolve declared.name = some definition ∧
    (undeclaredNames definition sample).Perm (undeclaredNames definition other) ∧
    finding.message = namesWording "Extra" endpoint side (undeclaredNames definition sample)
      definition.properties.keys ∧
    finding'.message = namesWording "Extra" endpoint side (undeclaredNames definition other)
      definition.properties.keys

section Bodies

variable {registry : Registry} {endpoint : String} {side : Side}
  {sample other : List (String × Json)} {reference : Option TypeReference}

/-- Findings that are not about names that are too much show themselves. -/
theorem showsTheSame_refl {findings : List Finding}
    (noExtra : ∀ finding ∈ findings, finding.kind ≠ .extraProperty) :
    List.Forall₂ (ShowsTheSame registry reference endpoint side sample other) findings findings :=
  List.forall₂_same.2 fun finding member =>
    ⟨rfl, rfl, rfl, fun _ => rfl, fun extra => absurd extra (noExtra finding member)⟩

/-- The block about names that are too much lists them in the order of the example. -/
theorem showsTheSame_checkExtra (h : Rearranged sample other) {declared : TypeReference}
    {definition : Definition} (isDeclared : reference = some declared)
    (resolved : registry.resolve declared.name = some definition) :
    List.Forall₂ (ShowsTheSame registry reference endpoint side sample other)
      (checkExtra endpoint side definition.properties.keys (Entries.keys sample))
      (checkExtra endpoint side definition.properties.keys (Entries.keys other)) := by
  have perm : (undeclaredNames definition sample).Perm (undeclaredNames definition other) :=
    undeclaredNames_perm h
  have both : undeclaredNames definition sample = [] ↔ undeclaredNames definition other = [] :=
    ⟨fun none => (none ▸ perm).nil_eq.symm, fun none => (none ▸ perm).eq_nil⟩
  rw [checkExtra_eq, checkExtra_eq]
  simp only [both]
  split
  · exact .nil
  · refine .cons ⟨rfl, rfl, rfl, fun noExtra => absurd rfl noExtra, fun _ => ?_⟩ .nil
    exact ⟨declared, definition, isDeclared, resolved, perm, rfl, rfl⟩

/-- Findings about names that are missing, and about values, are not about names that are too
much. -/
theorem kind_ne_of_mem_checkMissing {expected actual : List String} {finding : Finding}
    (h : finding ∈ checkMissing endpoint side expected actual) : finding.kind ≠ .extraProperty := by
  obtain ⟨-, rfl⟩ := mem_checkMissing_iff.1 h
  nofun

/-- A finding about a value is not about a name that is too much. -/
theorem kind_ne_of_mem_checkValues {definition : Definition} {finding : Finding}
    (h : finding ∈ checkValues endpoint side registry definition sample) :
    finding.kind ≠ .extraProperty := by
  obtain ⟨property, -, checked⟩ := List.mem_filterMap.1 h
  obtain ⟨value, problem, -, -, rfl⟩ := checkProperty_eq_some_iff.1 checked
  cases problem <;> nofun

/-- **The order inside an example does not matter.** When the members of an example stand in
another order, and the items of the arrays under its names, the same is found about the body: as
many findings, in the same order, with the same endpoints, kinds, sorts of values and wordings.
Only the names that are too much are listed in the order of the example. -/
theorem checkBody_of_rearranged (registry : Registry) (endpoint : ContractEndpoint) (side : Side)
    (reference : Option TypeReference) {body body' : Json} {sample other : List (String × Json)}
    (isSample : IsSample body sample) (isSample' : IsSample body' other)
    (distinct : (Entries.keys sample).Nodup) (rearranged : Rearranged sample other) :
    List.Forall₂ (ShowsTheSame registry reference endpoint.name side sample other)
      (checkBody endpoint.name side body reference registry)
      (checkBody endpoint.name side body' reference registry) := by
  cases resolved : reference.bind fun reference => registry.resolve reference.name with
  | none =>
    -- Without a type the one finding does not look at the sample.
    have missingType : ∀ {body sample}, IsSample body sample →
        checkBody endpoint.name side body reference registry =
          [⟨endpoint.name, .missingType side⟩] := by
      intro body sample isSample
      cases isSample <;> simp only [checkBody, resolved]
    rw [missingType isSample, missingType isSample']
    refine showsTheSame_refl fun finding member => ?_
    obtain rfl := List.mem_singleton.1 member
    cases side <;> nofun
  | some definition =>
    obtain ⟨declared, rfl, resolved⟩ := Option.bind_eq_some_iff.1 resolved
    rw [checkBody_of_isSample resolved isSample, checkBody_of_isSample resolved isSample',
      checkSample, checkSample, ← checkMissing_of_rearranged rearranged,
      ← checkValues_of_rearranged rearranged distinct]
    refine List.rel_append (List.rel_append ?missing ?extra) ?values
    case missing => exact showsTheSame_refl fun _ => kind_ne_of_mem_checkMissing
    case extra => exact showsTheSame_checkExtra rearranged rfl resolved
    case values => exact showsTheSame_refl fun _ => kind_ne_of_mem_checkValues

end Bodies

/-! ### A team in two orders -/

/-- A registry with a type that has a list of texts. -/
def teams : Registry :=
  .ofDefinitions [⟨"Team", .interface, .ofList [("lead", "string"), ("tags", "string[]")], []⟩]

/-- A team without a lead, with two names that are too much and a number among its texts. -/
def teamMembers (tags : List Json) : List (String × Json) :=
  [("tags", .array tags), ("size", .int 3)] ++ [("city", .string "Rome")]

/-- The endpoint that shows the team. -/
def saveTeam : ContractEndpoint :=
  ⟨"Save team", "POST", "teams", .object (teamMembers [.int 1, .string "a"]), .null⟩

/-- The same is found about the team in another order: three findings, of which the second one lists
the names in the order of the example. -/
theorem findings_saveTeam :
    List.Forall₂
      (ShowsTheSame teams (some ⟨"Team", .local, false⟩) saveTeam.name .request
        (teamMembers [.int 1, .string "a"])
        ([("city", .string "Rome")] ++ [("tags", .array [.string "a", .int 1]), ("size", .int 3)]))
      (checkBody saveTeam.name .request saveTeam.requestBody (some ⟨"Team", .local, false⟩) teams)
      (checkBody saveTeam.name .request
        (.object ([("city", .string "Rome")] ++
          [("tags", .array [.string "a", .int 1]), ("size", .int 3)]))
        (some ⟨"Team", .local, false⟩) teams) ∧
    (checkBody saveTeam.name .request saveTeam.requestBody (some ⟨"Team", .local, false⟩) teams).map
      Finding.kind = [.missingProperty, .extraProperty, .typeMismatch] := by
  refine ⟨checkBody_of_rearranged teams saveTeam .request (some ⟨"Team", .local, false⟩) .itself
    .itself (by decide)
      ⟨teamMembers [.string "a", .int 1], ?alike, List.perm_append_comm⟩, by decide⟩
  exact .cons ⟨rfl, .array (.swap _ _ _)⟩ (.cons ⟨rfl, .refl _⟩ (.cons ⟨rfl, .refl _⟩ .nil))

end Accord.Lint
