import Accord.Proofs.Types.Alike
import Accord.Proofs.Types.Signature
import Mathlib.Data.List.Nodup

/-!
# `Accord.Proofs.Types.Order`: the order of declarations does not matter

What an interface takes over is looked up by name, and from there on by name again. So two lists
with the same first declaration of every name give every definition the same properties, in the
same order (`withInherited_congr`), whatever circles the names form. Lists of declarations with
distinct names are of this kind when one is the other in another order
(`declarationOf?_of_perm`).

`get?_inheritedRegistry_of_perm` puts this together: the registries of units in two orders hold
the same under every name, though the names come in another order.
-/

set_option autoImplicit false

namespace Accord

/-! ### Elements with distinct keys -/

section Keyed

variable {α κ : Type} [DecidableEq κ] {key : α → κ} {list other : List α}

/-- Under distinct keys a search finds the one element with the key. -/
theorem find?_key_eq_some_iff (distinct : (list.map key).Nodup) {wanted : κ} {element : α} :
    list.find? (fun entry => key entry = wanted) = some element ↔
      element ∈ list ∧ key element = wanted := by
  constructor
  · intro found
    exact ⟨List.mem_of_find?_eq_some found, by simpa using List.find?_some found⟩
  · rintro ⟨member, rfl⟩
    cases found : list.find? (fun entry => key entry = key element) with
    | some first =>
      have same : key first = key element := by simpa using List.find?_some found
      -- The search may have stopped earlier, but only at an element with the same key.
      rw [List.inj_on_of_nodup_map distinct (List.mem_of_find?_eq_some found) member same]
    | none =>
      have differs := List.find?_eq_none.1 found element member
      simp at differs

/-- Under distinct keys the order of a list has no part in what a search finds. -/
theorem find?_key_of_perm (perm : list.Perm other) (distinct : (list.map key).Nodup) (wanted : κ) :
    list.find? (fun entry => key entry = wanted) =
      other.find? (fun entry => key entry = wanted) := by
  have distinct' : (other.map key).Nodup := (perm.map key).nodup_iff.1 distinct
  ext element
  rw [find?_key_eq_some_iff distinct, find?_key_eq_some_iff distinct', perm.mem_iff]

end Keyed

namespace Types

variable {definitions others : List Definition}

/-- Declarations with distinct names may come in any order. -/
theorem declarationOf?_of_perm (perm : definitions.Perm others)
    (distinct : (definitions.map Definition.name).Nodup) (name : String) :
    declarationOf? definitions name = declarationOf? others name :=
  find?_key_of_perm perm distinct name

/-! ### Inheriting by name -/

/-- Two lists of declarations have the same first declaration of every name. -/
def SameDeclarations (definitions others : List Definition) : Prop :=
  ∀ name, declarationOf? definitions name = declarationOf? others name

/-- Without a name they still have. -/
theorem SameDeclarations.without (same : SameDeclarations definitions others) (gone : String) :
    SameDeclarations (without gone definitions) (without gone others) := by
  intro name
  rw [declarationOf?_without, declarationOf?_without, same name]

/-- What bases hand over depends on the first declarations alone. -/
theorem inheritFrom_congr (same : SameDeclarations definitions others) (start : Table String)
    (bases : List String) :
    inheritFrom definitions start bases = inheritFrom others start bases := by
  have alike : DeclaredAlike Eq definitions others := fun name => by
    rw [same name]
    cases declarationOf? others name with
    | none => exact .none
    | some _ => exact .some rfl
  have hands : ∀ definition other : Definition, definition = other →
      other.bases = definition.bases ∧ definition.properties.Alike Eq other.properties := by
    rintro definition - rfl
    exact ⟨rfl, Table.alike_refl (fun _ => rfl) _⟩
  exact Table.eq_of_alike_eq (alike.inheritFrom hands (Table.alike_refl (fun _ => rfl) start) bases)

/-- A definition takes over the same. -/
theorem withInherited_congr (same : SameDeclarations definitions others)
    (definition : Definition) :
    withInherited definitions definition = withInherited others definition := by
  rw [withInherited, withInherited, allProperties, allProperties,
    inheritFrom_congr (same.without definition.name)]

/-- The two registries hold the same under every name. -/
theorem get?_inheritedRegistry_congr (same : SameDeclarations definitions others) (name : String) :
    (inheritedRegistry definitions).get? name = (inheritedRegistry others).get? name := by
  have merged : withInherited definitions = withInherited others :=
    funext fun definition => withInherited_congr same definition
  rw [inheritedRegistry, inheritedRegistry, get?_ofDefinitions_inherit,
    get?_ofDefinitions_inherit, same name, merged]

/-- The registry of units does not depend on their order, if every name is declared once. -/
theorem get?_inheritedRegistry_of_perm {units others : List SourceUnit} (perm : units.Perm others)
    (built : Built units) (distinct : (declaredNames units).Nodup) (name : String) :
    (inheritedRegistry (declaredBy units)).get? name =
      (inheritedRegistry (declaredBy others)).get? name := by
  rw [← names_declaredBy built] at distinct
  have declared : (declaredBy units).Perm (declaredBy others) := (nodesOf_perm perm).filterMap _
  exact get?_inheritedRegistry_congr (declarationOf?_of_perm declared distinct) name

end Types

end Accord
