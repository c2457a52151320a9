import Accord.Proofs.Types.Inheritance
import Mathlib.Data.List.Forall2

/-!
# `Accord.Proofs.Types.Closure`: a registry is closed under inheritance

`inherit_closes_registry` is about the registry of any list of declarations, whatever names they
extend. A registered interface has exactly the properties of the first declarations that it
reaches, its own ones with their own texts; so what it extends is contained in it, also inside a
circle, and inheriting once more changes nothing.
-/

set_option autoImplicit false

namespace Accord.Types

/-- Two definitions are the same but for the order of their properties. -/
structure Definition.Agrees (first second : Definition) : Prop where
  name : first.name = second.name
  kind : first.kind = second.kind
  bases : first.bases = second.bases
  get? : ∀ property, first.properties.get? property = second.properties.get? property

/-- The registry of declarations with what they take over. -/
def inheritedRegistry (definitions : List Definition) : Registry :=
  Registry.ofDefinitions (inherit definitions)

/-- Inheriting changes no names. -/
theorem named_inheritedRegistry (definitions : List Definition) :
    (inheritedRegistry definitions).Named :=
  Registry.named_ofDefinitions _

variable {definitions : List Definition} {name : String} {definition : Definition}

/-- What is registered under a name is its first declaration with what it takes over. -/
theorem registered_iff :
    (inheritedRegistry definitions).get? name = some definition ↔
      ∃ own, declarationOf? definitions name = some own ∧
        withInherited definitions own = definition := by
  rw [inheritedRegistry, get?_ofDefinitions_inherit, Option.map_eq_some_iff]

/-- The properties of what is registered under a name are what the name supplies. -/
theorem mem_keys_registered (h : (inheritedRegistry definitions).get? name = some definition)
    (property : String) :
    property ∈ definition.properties.keys ↔ Supplies definitions name property := by
  obtain ⟨own, declared, rfl⟩ := registered_iff.1 h
  obtain rfl := name_of_declarationOf? declared
  rw [properties_withInherited]
  exact mem_keys_allProperties declared property

/-- What is registered extends what the first declaration of its name extends. -/
theorem extends_registered {base : String}
    (h : (inheritedRegistry definitions).get? name = some definition)
    (member : base ∈ definition.bases) : Extends definitions name base := by
  obtain ⟨own, declared, rfl⟩ := registered_iff.1 h
  exact ⟨own, declared, by simpa using member⟩

/-- Every base that is registered is contained in what extends it. -/
theorem keys_subset_of_base {base : String} {inherited : Definition}
    (h : (inheritedRegistry definitions).get? name = some definition)
    (member : base ∈ definition.bases)
    (hbase : (inheritedRegistry definitions).get? base = some inherited) :
    inherited.properties.keys ⊆ definition.properties.keys := by
  intro property held
  rw [mem_keys_registered hbase] at held
  rw [mem_keys_registered h]
  exact supplies_of_extends (extends_registered h member) held

/-- Declarations that a registry holds reach what the names did before. -/
theorem reaches_of_registered {other : String}
    (h : Reaches (inheritedRegistry definitions).definitions name other) :
    Reaches definitions name other := by
  induction h with
  | refl => exact .refl
  | tail _ step ih =>
    obtain ⟨declaration, declared, member⟩ := step
    rw [Registry.declarationOf?_definitions (named_inheritedRegistry _)] at declared
    exact ih.tail (extends_registered declared member)

/-- Declarations that a registry holds supply nothing new. -/
theorem supplies_of_registered {property : String}
    (h : Supplies (inheritedRegistry definitions).definitions name property) :
    Supplies definitions name property := by
  obtain ⟨other, declaration, path, declared, own⟩ := h
  rw [Registry.declarationOf?_definitions (named_inheritedRegistry _)] at declared
  obtain ⟨last, found, rest, declaredLast, ownLast⟩ := (mem_keys_registered declared property).1 own
  exact ⟨last, found, (reaches_of_registered path).trans rest, declaredLast, ownLast⟩

/-- Inheriting once more changes no registered definition. The bases of a registered definition
supply only names that it holds, so its own texts cover whatever they hand over. -/
theorem agrees_withInherited
    (h : definition ∈ (inheritedRegistry definitions).definitions) :
    definition.Agrees
      (withInherited (inheritedRegistry definitions).definitions definition) := by
  have named := named_inheritedRegistry definitions
  have held := (Registry.mem_definitions_iff named definition).1 h
  refine ⟨by simp, by simp, by simp, fun property => ?_⟩
  rw [get?_withInherited]
  cases own : definition.properties.get? property with
  | some text => rfl
  | none =>
    have declared := held
    rw [← Registry.declarationOf?_definitions named] at declared
    -- A name from a base would be supplied by the definition, which holds all that it supplies.
    have absent : property ∉ (inheritFrom
        (without definition.name (inheritedRegistry definitions).definitions) .empty
        definition.bases).keys := by
      intro handed
      rw [mem_keys_inheritFrom] at handed
      have supplied : Supplies definitions definition.name property :=
        supplies_of_registered ((supplies_iff declared property).2
          (.inr (by simpa using handed)))
      exact (Table.get?_eq_none_iff _ _).1 own ((mem_keys_registered held property).2 supplied)
    rw [(Table.get?_eq_none_iff _ _).2 absent]
    rfl

/-- **A registry is closed under inheritance**, for every graph of declarations. -/
theorem inherit_closes_registry (definitions : List Definition) :
    -- The recursion ends on every declaration, with one result by its rules.
    (∀ definition ∈ definitions, ∃ inherited,
      (∀ result, Gathers definitions [definition.name] .empty definition.bases result ↔
        result = inherited) ∧
      (withInherited definitions definition).properties =
        inherited.update definition.properties) ∧
    -- The names that are declared are registered.
    (∀ name, ((inheritedRegistry definitions).get? name).isSome =
      (declarationOf? definitions name).isSome) ∧
    (∀ name definition, (inheritedRegistry definitions).get? name = some definition →
      ∃ own, declarationOf? definitions name = some own ∧
        -- A registered definition has the properties of all that it reaches, ...
        (∀ property, property ∈ definition.properties.keys ↔
          ∃ other declaration, Reaches definitions name other ∧
            declarationOf? definitions other = some declaration ∧
            property ∈ declaration.properties.keys) ∧
        -- ... its own ones with their own texts, ...
        (∀ property text, own.properties.get? property = some text →
          definition.properties.get? property = some text) ∧
        -- ... and so all properties of its bases.
        definition.bases = own.bases ∧
        ∀ base ∈ definition.bases, ∀ inherited,
          (inheritedRegistry definitions).get? base = some inherited →
          inherited.properties.keys ⊆ definition.properties.keys) ∧
    -- Inheriting once more changes no mapping.
    List.Forall₂ Definition.Agrees (inheritedRegistry definitions).definitions
      (inherit (inheritedRegistry definitions).definitions) := by
  refine ⟨?ends, ?registered, ?closed, ?stable⟩
  case ends =>
    intro definition _
    refine ⟨_, fun result => gathers_iff _ _ _ _ result, ?_⟩
    rw [properties_withInherited, allProperties]
    congr 2
    unfold without unseen
    congr 1
    funext other
    simp
  case registered =>
    intro name
    rw [inheritedRegistry, get?_ofDefinitions_inherit, Option.isSome_map]
  case closed =>
    intro name definition held
    obtain ⟨own, declared, merged⟩ := registered_iff.1 held
    refine ⟨own, declared, mem_keys_registered held, ?_, ?_, ?_⟩
    · intro property text found
      rw [← merged, get?_withInherited, found]
      rfl
    · rw [← merged, bases_withInherited]
    · intro base member inherited heldBase
      exact keys_subset_of_base held member heldBase
  -- A registered definition has all that it reaches, so there is nothing left to inherit.
  case stable =>
    rw [inherit_eq_map, List.forall₂_map_right_iff, List.forall₂_same]
    exact fun definition member => agrees_withInherited member

/-- Three interfaces in a circle, the first of which is declared twice and also extends itself and
a name that nothing declares. -/
def circle : List Definition :=
  [⟨"Order", .interface, .ofList [("id", "string")], ["Missing", "Order", "Item"]⟩,
    ⟨"Item", .interface, .ofList [("id", "number"), ("price", "number")], ["Price"]⟩,
    ⟨"Order", .interface, .ofList [("other", "string")], []⟩,
    ⟨"Price", .interface, .ofList [("currency", "string")], ["Order"]⟩]

/-- Around a circle every interface has the properties of all of them. -/
theorem circle_closed :
    ∃ order price, (inheritedRegistry circle).get? "Order" = some order ∧
      (inheritedRegistry circle).get? "Price" = some price ∧
      order.properties.get? "id" = some "string" ∧ "currency" ∈ order.properties.keys ∧
      order.properties.keys ⊆ price.properties.keys := by
  have order : (inheritedRegistry circle).get? "Order" = some (withInherited circle circle[0]) :=
    registered_iff.2 ⟨_, rfl, rfl⟩
  have price : (inheritedRegistry circle).get? "Price" = some (withInherited circle circle[3]) :=
    registered_iff.2 ⟨_, rfl, rfl⟩
  have closed := (inherit_closes_registry circle).2.2.1
  obtain ⟨own, declared, names, texts, -, -⟩ := closed _ _ order
  obtain ⟨_, _, -, -, -, inherits⟩ := closed _ _ price
  refine ⟨_, _, order, price, ?_, ?_, inherits "Order" ?_ _ order⟩
  · obtain rfl : circle[0] = own := Option.some.inj declared
    exact texts "id" "string" rfl
  · have toItem : Extends circle "Order" "Item" := ⟨circle[0], rfl, by decide⟩
    have toPrice : Extends circle "Item" "Price" := ⟨circle[1], rfl, by decide⟩
    exact (names "currency").2
      ⟨"Price", circle[3], .tail (.single toItem) toPrice, rfl, by decide⟩
  · rw [bases_withInherited]
    decide

end Accord.Types
