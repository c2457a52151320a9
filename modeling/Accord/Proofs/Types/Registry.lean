import Accord.Proofs.Table
import Accord.Types.Inheritance
import Accord.Types.Registry

/-!
# `Accord.Proofs.Types.Registry`: a registry holds first declarations

`Registry.ofDefinitions` adds definitions one by one and leaves out those whose name is taken.
What it holds under a name is therefore the first definition of that name in the list, which is
also what `declarationOf?` finds: `get?_ofDefinitions`. `registered_iff` says the same of the
list of definitions that a registry holds.
-/

set_option autoImplicit false

namespace Accord.Types

/-- The first declaration of a name has that name. -/
theorem name_of_declarationOf? {definitions : List Definition} {name : String}
    {definition : Definition} (h : declarationOf? definitions name = some definition) :
    definition.name = name := by
  simpa using List.find?_some h

/-- The first declaration of a name is one of the declarations. -/
theorem mem_of_declarationOf? {definitions : List Definition} {name : String}
    {definition : Definition} (h : declarationOf? definitions name = some definition) :
    definition ∈ definitions :=
  List.mem_of_find?_eq_some h

namespace Registry

/-- A registry contains the names that it has definitions for. -/
theorem contains_iff (registry : Registry) (name : String) :
    registry.contains name = true ↔ ∃ definition, registry.get? name = some definition := by
  rw [contains, Table.contains_iff, Table.mem_keys_iff]
  rfl

/-- A registry and the definitions in it agree on names: each stands under its own name. -/
def Named (registry : Registry) : Prop :=
  ∀ entry ∈ registry.types.entries, entry.2.name = entry.1

/-- Without definitions every one stands under its own name. -/
theorem named_empty : empty.Named := by
  intro entry h
  cases h

/-- An addition keeps every definition under its own name. -/
theorem named_add {registry : Registry} (h : registry.Named) (definition : Definition) :
    (registry.add definition).Named := by
  unfold add
  split
  · exact h
  · next taken =>
    have fresh : definition.name ∉ Entries.keys registry.types.entries := by
      simpa [Table.contains_iff, Table.keys] using taken
    intro entry member
    have written : entry ∈ registry.types.entries ++ [(definition.name, definition)] := by
      rw [← Entries.insert_of_not_mem definition fresh]
      exact member
    rcases List.mem_append.1 written with old | new
    · exact h entry old
    · obtain rfl := List.mem_singleton.1 new
      rfl

/-- What is held under a name after an addition: what was held, or else the new definition. -/
theorem get?_add (registry : Registry) (definition : Definition) (name : String) :
    (registry.add definition).get? name =
      (registry.get? name).or (if definition.name = name then some definition else none) := by
  unfold add get?
  split
  · next taken =>
    obtain ⟨value, held⟩ := (Table.mem_keys_iff _ _).1 ((Table.contains_iff _ _).1 taken)
    by_cases same : definition.name = name
    · subst same
      -- The name is taken: the addition changes nothing, and what is held comes first.
      simp [held]
    · simp [same]
  · next taken =>
    have absent : registry.types.get? definition.name = none := by
      rw [Table.get?_eq_none_iff, ← Table.contains_iff]
      exact taken
    rw [Table.get?_insert]
    by_cases same : definition.name = name
    · subst same
      simp [absent]
    · simp [same]

/-- What is held under a name after the addition of several definitions. -/
theorem get?_foldl_add (definitions : List Definition) (registry : Registry) (name : String) :
    (definitions.foldl add registry).get? name =
      (registry.get? name).or (declarationOf? definitions name) := by
  induction definitions generalizing registry with
  | nil => simp [declarationOf?]
  | cons definition rest ih =>
    rw [List.foldl_cons, ih, get?_add, Option.or_assoc]
    congr 1
    by_cases same : definition.name = name
    · simp [declarationOf?, same]
    · simp [declarationOf?, same]

/-- What a registry holds under a name is the first declaration of that name. -/
theorem get?_ofDefinitions (definitions : List Definition) (name : String) :
    (ofDefinitions definitions).get? name = declarationOf? definitions name := by
  rw [ofDefinitions, get?_foldl_add]
  rfl

/-- Every definition that a registry holds stands under its own name. -/
theorem named_ofDefinitions (definitions : List Definition) :
    (ofDefinitions definitions).Named := by
  unfold ofDefinitions
  suffices h : ∀ registry : Registry, registry.Named → (definitions.foldl add registry).Named from
    h _ named_empty
  induction definitions with
  | nil => intro registry h; exact h
  | cons definition rest ih => intro registry h; exact ih _ (named_add h definition)

/-- The definitions of a registry, in the order of their names. -/
def definitions (registry : Registry) : List Definition :=
  registry.types.values

/-- The definitions of a registry are what it holds under their names. -/
theorem mem_definitions_iff {registry : Registry} (named : registry.Named)
    (definition : Definition) :
    definition ∈ registry.definitions ↔ registry.get? definition.name = some definition := by
  constructor
  · intro h
    obtain ⟨entry, member, rfl⟩ := List.mem_map.1 h
    rw [named entry member]
    exact Entries.get?_eq_some_of_mem registry.types.nodup member
  · intro h
    exact List.mem_map.2 ⟨_, Entries.mem_of_get?_eq_some h, rfl⟩

/-- The first declaration of a name among the definitions of a registry is what it holds under
that name. -/
theorem declarationOf?_definitions {registry : Registry} (named : registry.Named) (name : String) :
    declarationOf? registry.definitions name = registry.get? name := by
  cases found : declarationOf? registry.definitions name with
  | some definition =>
    have held := (mem_definitions_iff named definition).1 (mem_of_declarationOf? found)
    rw [name_of_declarationOf? found] at held
    exact held.symm
  | none =>
    cases held : registry.get? name with
    | none => rfl
    | some definition =>
      have entry := Entries.mem_of_get?_eq_some held
      have member : definition ∈ registry.definitions := List.mem_map.2 ⟨_, entry, rfl⟩
      -- The search has passed all definitions, the held one among them, and none has the name.
      have other := List.find?_eq_none.1 found definition member
      exact absurd (named _ entry) (by simpa using other)

end Registry

end Accord.Types
