import Accord.Report
import Accord.Types.Definition

/-!
# `Accord.Types.Registry`: the table of declared types

A registry holds the first declaration of every name; each later declaration of a name is left
out and noted. Looking up a type name ignores one array mark at its end.
-/

set_option autoImplicit false

namespace Accord.Types

/-- The declared types by name, in the order of their first declarations. -/
structure Registry where
  /-- The declarations under their names. -/
  types : Table Definition

namespace Registry

/-- The registry without types. -/
def empty : Registry :=
  ⟨.empty⟩

/-- Adds a declaration unless its name is taken. -/
def add (registry : Registry) (definition : Definition) : Registry :=
  if registry.types.contains definition.name then registry
  else ⟨registry.types.insert definition.name definition⟩

/-- The registry of a list of declarations. -/
def ofDefinitions (definitions : List Definition) : Registry :=
  definitions.foldl add empty

/-- The names that are declared again, once for every declaration that is left out. `seen` holds
the names declared before. -/
def repeatedNames (seen : List String) : List Definition → List String
  | [] => []
  | definition :: rest =>
    if seen.contains definition.name then definition.name :: repeatedNames seen rest
    else repeatedNames (definition.name :: seen) rest

/-- The registry of a list of declarations, with a note of every declaration that is left out. -/
def build {ε : Type} (definitions : List Definition) : Report ε Registry :=
  ⟨(repeatedNames [] definitions).map Event.duplicateType, .ok (ofDefinitions definitions)⟩

/-- The declared names in order. -/
def names (registry : Registry) : List String :=
  registry.types.keys

/-- The number of declared names. -/
def size (registry : Registry) : Nat :=
  registry.types.size

/-- Whether a name is declared. -/
def contains (registry : Registry) (name : String) : Bool :=
  registry.types.contains name

/-- The declaration of a name. -/
def get? (registry : Registry) (name : String) : Option Definition :=
  registry.types.get? name

/-- The declaration that a type name means, one array mark at its end left aside. -/
def resolve (registry : Registry) (typeName : String) : Option Definition :=
  registry.get? ((element? typeName).getD typeName)

/-- The values of the members of an enumeration, if the name is that of one. -/
def enumValues? (registry : Registry) (name : String) : Option (List String) :=
  (registry.get? name).bind fun definition =>
    if definition.kind = .enumeration then some definition.properties.values else none

end Registry

end Accord.Types
