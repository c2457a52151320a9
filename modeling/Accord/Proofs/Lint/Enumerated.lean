import Accord.Proofs.Lint.Accounting

/-!
# `Accord.Proofs.Lint.Enumerated`: values of properties that name an enumeration

A property whose declared text is the name of an enumeration is compared with the values of that
enumeration, and the comparison comes before all others. `enumerated_verdict` says what is found
about each kind of value: a text or a number has to be among the values, and nothing is ever
found about any other value. The rules for arrays and for the types of scalars are not reached,
so `null`, a truth value and an array pass where the enumeration has none of them
(`lint_assignRoles_eq_nil`).

A text that is registered as an enumeration and does not read as a name (`describeText`) is
judged by the other rules.
-/

set_option autoImplicit false

namespace Accord.Lint

open Accord.Types

variable {registry : Registry} {code : List CodeEndpoint} {endpoint : ContractEndpoint}
  {side : Side} {property text : String} {value : Json} {values : List String}

/-- Values that are no text and no number are not compared with an enumeration. -/
theorem checkEnum_of_not_isTextOrNumber (other : ¬value.IsTextOrNumber) :
    checkEnum values value = none := by
  cases value with
  | string | int | double => exact absurd trivial other
  | null | bool | array | object => rfl

/-- An enumeration is registered under a text that reads as a name. -/
theorem namesEnum_of_enumValues? (registered : registry.enumValues? text = some values)
    (isName : describeText text = ⟨.reference, text⟩) : NamesEnum registry text values := by
  apply enumValues?_iff.1
  simpa [isName] using registered

/-- **What is found about a value under the name of an enumeration.** -/
theorem enumerated_verdict (shows : Shows registry code endpoint side property text value)
    (registered : registry.enumValues? text = some values) :
    (describeText text = ⟨.reference, text⟩ →
      -- A text or a number has to be among the values.
      (value.IsTextOrNumber →
        (valueFindings registry code endpoint side property = [] ↔
          ∃ written ∈ values, value.Spells written) ∧
        ((∀ written ∈ values, ¬value.Spells written) →
          ∃ finding, valueFindings registry code endpoint side property = [finding] ∧
            finding.endpoint = endpoint.name ∧ finding.kind = .invalidEnumValue)) ∧
      -- Other values are not looked at.
      (¬value.IsTextOrNumber → valueFindings registry code endpoint side property = [])) ∧
    -- A text that is no name is judged by the other rules.
    (describeText text ≠ ⟨.reference, text⟩ →
      (valueFindings registry code endpoint side property = [] ↔ Accepts registry text value)) := by
  have found := valueFindings_eq shows
  constructor
  · intro isName
    have names := namesEnum_of_enumValues? registered isName
    rw [checkValue_of_namesEnum names] at found
    constructor
    · intro compared
      constructor
      · rw [valueFindings_eq_nil_iff shows, checkValue_of_namesEnum names,
          checkEnum_eq_none_iff compared.exists_spells]
        exact exists_congr fun _ => and_comm
      · intro absent
        -- The text that the value is compared by is none of the values.
        obtain ⟨written, spells⟩ := compared.exists_spells
        have outside : written ∉ values := fun member => absent written member spells
        rw [found, checkEnum_of_spells spells, if_neg outside]
        exact ⟨_, rfl, rfl, rfl⟩
    · intro other
      rw [found, checkEnum_of_not_isTextOrNumber other]
      rfl
  · intro noName
    rw [valueFindings_eq_nil_iff shows]
    apply checkValue_eq_none_iff
    intro others names
    exact absurd names.1 noName

/-- An enumeration, and a type with three properties that name it. -/
def roles : Registry :=
  .ofDefinitions
    [⟨"Role", .enumeration, .ofList [("Admin", "admin"), ("Guest", "1")], []⟩,
      ⟨"User", .interface, .ofList [("role", "Role"), ("active", "Role"), ("others", "Role")], []⟩]

/-- An endpoint that shows values for the three properties. -/
def assignRoles (role active others : Json) : ContractEndpoint :=
  ⟨"Assign roles", "POST", "users",
    .object [("role", role), ("active", active), ("others", others)], .null⟩

/-- The call that the endpoint meets. -/
def assignRolesCall : CodeEndpoint :=
  ⟨"POST", "users", some ⟨"User", .local, false⟩, none, "api.ts"⟩

/-- The endpoint shows what it is given. -/
theorem shows_assignRoles {role active others value : Json} {property : String}
    (declared : property ∈ ["role", "active", "others"])
    (held : Entries.get? [("role", role), ("active", active), ("others", others)] property =
      some value) :
    Shows roles [assignRolesCall] (assignRoles role active others) .request property "Role"
      value := by
  have first : IsFirstMatch [assignRolesCall] (assignRoles role active others) assignRolesCall :=
    isFirstMatch_singleton ⟨rfl, rfl⟩
  have hasText : (Table.ofList [("role", "Role"), ("active", "Role"), ("others", "Role")]).get?
      property = some "Role" := by
    simp only [List.mem_cons, List.not_mem_nil, or_false] at declared
    rcases declared with rfl | rfl | rfl <;> rfl
  exact ⟨_, _, _, _, first, rfl, rfl, .itself, hasText, held⟩

/-- A number that is spelled as one of the values passes, and a text that is none of them does
not. -/
theorem valueFindings_assignRoles :
    valueFindings roles [assignRolesCall] (assignRoles (.string "root") (.int 1) .null) .request
      "active" = [] ∧
    ∃ finding,
      valueFindings roles [assignRolesCall] (assignRoles (.string "root") (.int 1) .null) .request
        "role" = [finding] ∧ finding.kind = .invalidEnumValue := by
  have registered : roles.enumValues? "Role" = some ["admin", "1"] := rfl
  constructor
  · have shows : Shows roles [assignRolesCall] (assignRoles (.string "root") (.int 1) .null)
        .request "active" "Role" (.int 1) := shows_assignRoles (by decide) rfl
    exact (((enumerated_verdict shows registered).1 rfl).1 trivial).1.2
      ⟨"1", by decide, .number rfl⟩
  · have shows : Shows roles [assignRolesCall] (assignRoles (.string "root") (.int 1) .null)
        .request "role" "Role" (.string "root") := shows_assignRoles (by decide) rfl
    obtain ⟨finding, found, -, kind⟩ := (((enumerated_verdict shows registered).1 rfl).1 trivial).2
      (by
        intro written member spells
        cases spells with
        | text => revert member; decide
        | number none => cases none)
    exact ⟨finding, found, kind⟩

/-- Three values that the enumeration does not have, and nothing is found. -/
theorem lint_assignRoles_eq_nil :
    roles.enumValues? "Role" = some ["admin", "1"] ∧
    Shows roles [assignRolesCall] (assignRoles .null (.bool true) (.array [.string "admin"]))
      .request "role" "Role" .null ∧
    Shows roles [assignRolesCall] (assignRoles .null (.bool true) (.array [.string "admin"]))
      .request "active" "Role" (.bool true) ∧
    Shows roles [assignRolesCall] (assignRoles .null (.bool true) (.array [.string "admin"]))
      .request "others" "Role" (.array [.string "admin"]) ∧
    lint [assignRoles .null (.bool true) (.array [.string "admin"])] [assignRolesCall] roles = [] :=
  ⟨rfl, shows_assignRoles (by decide) rfl, shows_assignRoles (by decide) rfl,
    shows_assignRoles (by decide) rfl, by decide⟩

end Accord.Lint
