import Accord.Proofs.Aligned
import Accord.Proofs.Types.Closure

/-!
# `Accord.Proofs.Types.Alike`: declarations with properties that go with each other

Two definitions are alike when they have the same name, kind, bases and properties, and the
types of the properties go with each other, whatever that means (`holds`). Inheritance carries
this relation from the declarations over to what they take over: it looks up names and writes
tables over each other, and never looks at the type of a property (`DeclaredAlike.inheritFrom`).

`DeclaredAlike.rel_get?_inheritedRegistry` is the result for registries.
-/

set_option autoImplicit false

namespace Accord.Types

variable {holds : String → String → Prop}

/-- The same declarations, with property types that go with each other. An enumeration has no
property types, and so it is as it was. -/
structure Definition.Alike (holds : String → String → Prop) (definition other : Definition) :
    Prop where
  name : other.name = definition.name
  kind : other.kind = definition.kind
  bases : other.bases = definition.bases
  properties : definition.properties.Alike holds other.properties
  enumeration : definition.kind = .enumeration →
    definition.bases = [] ∧ other.properties = definition.properties

/-- The first declarations of every name are related, if there are any. -/
def DeclaredAlike (related : Definition → Definition → Prop)
    (definitions others : List Definition) :
    Prop :=
  ∀ name, Option.Rel related (declarationOf? definitions name) (declarationOf? others name)

namespace DeclaredAlike

section Related

variable {related : Definition → Definition → Prop} {definitions others : List Definition}
  {name : String}

/-- A name without a declaration has none in the other list. -/
theorem undeclared (alike : DeclaredAlike related definitions others)
    (missing : declarationOf? definitions name = none) : declarationOf? others name = none := by
  have both := alike name
  rw [missing] at both
  generalize declarationOf? others name = found' at both
  cases both with
  | none => rfl

/-- A name with a declaration has one that is alike. -/
theorem declared (alike : DeclaredAlike related definitions others) {declaration : Definition}
    (found : declarationOf? definitions name = some declaration) :
    ∃ other, declarationOf? others name = some other ∧ related declaration other := by
  have both := alike name
  rw [found] at both
  generalize declarationOf? others name = found' at both
  cases both with
  | some same => exact ⟨_, rfl, same⟩

/-- Without a name they are still related. -/
theorem without (alike : DeclaredAlike related definitions others) (gone : String) :
    DeclaredAlike related (Types.without gone definitions) (Types.without gone others) := by
  intro name
  rw [declarationOf?_without, declarationOf?_without]
  split
  · exact .none
  · exact alike name

/-- Bases hand over what goes with each other, if related declarations have the same bases and
properties that do. -/
theorem inheritFrom
    (hands : ∀ definition other, related definition other →
      other.bases = definition.bases ∧ definition.properties.Alike holds other.properties)
    (alike : DeclaredAlike related definitions others) {start start' : Table String}
    (begun : start.Alike holds start') (bases : List String) :
    (inheritFrom definitions start bases).Alike holds (inheritFrom others start' bases) := by
  -- The recursion goes into a base with the declarations of all other names, so the other list has
  -- to be general: there it is without the base as well.
  fun_induction Types.inheritFrom definitions start bases generalizing others start' with
  | case1 definitions start =>
    rw [Types.inheritFrom]
    exact begun
  | case2 definitions start base rest missing ih =>
    rw [inheritFrom_undeclared (alike.undeclared missing)]
    exact ih alike begun
  | case3 definitions start base rest declaration found _ _ ihBase =>
    rename_i ihRest
    obtain ⟨declaration', found', same⟩ := alike.declared found
    obtain ⟨bases, properties⟩ := hands _ _ same
    rw [inheritFrom_declared found', bases]
    have inherited := ihBase (alike.without base) Table.alike_empty
    exact ihRest alike (begun.update (inherited.update properties))

end Related

variable {definitions others : List Definition}

/-- Lists that are alike place by place have first declarations that are. -/
theorem of_forall₂ (related : definitions.Forall₂ (Definition.Alike holds) others) :
    DeclaredAlike (Definition.Alike holds) definitions others :=
  fun name => rel_find? (fun _ _ alike => by rw [alike.name]) related

/-- Definitions take over what goes with each other. -/
theorem withInherited (alike : DeclaredAlike (Definition.Alike holds) definitions others)
    {definition other : Definition} (same : definition.Alike holds other) :
    (withInherited definitions definition).Alike holds (withInherited others other) := by
  rw [Types.withInherited, Types.withInherited, same.bases]
  split
  · exact same
  · next extending =>
    refine ⟨same.name, same.kind, rfl, ?_, fun isEnum => ?_⟩
    · have inherited := (alike.without definition.name).inheritFrom
        (fun _ _ same => ⟨same.bases, same.properties⟩) Table.alike_empty definition.bases
      show (allProperties definitions definition).Alike holds (allProperties others other)
      rw [allProperties, allProperties, same.name, same.bases]
      exact inherited.update same.properties
    · -- An enumeration has no bases.
      rw [(same.enumeration isEnum).1] at extending
      exact absurd rfl extending

/-- The registries hold definitions that are alike under the same names. -/
theorem rel_get?_inheritedRegistry
    (alike : DeclaredAlike (Definition.Alike holds) definitions others) (name : String) :
    Option.Rel (Definition.Alike holds) ((inheritedRegistry definitions).get? name)
      ((inheritedRegistry others).get? name) := by
  have both := alike name
  rw [inheritedRegistry, inheritedRegistry, get?_ofDefinitions_inherit, get?_ofDefinitions_inherit]
  generalize declarationOf? definitions name = found at both
  generalize declarationOf? others name = found' at both
  cases both with
  | none => exact .none
  | some same => exact .some (alike.withInherited same)

end DeclaredAlike

end Accord.Types
