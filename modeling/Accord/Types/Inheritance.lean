import Accord.Types.Definition

/-!
# `Accord.Types.Inheritance`: what interfaces take over from what they extend

An interface takes over the properties of what it extends, one base after the other, each with
what it takes over itself; its own properties come last and win. On the way from an interface to
its bases no name is gone through twice, so that circles end.
-/

set_option autoImplicit false

namespace Accord.Types

/-- The first declaration of a name. -/
def declarationOf? (definitions : List Definition) (name : String) : Option Definition :=
  definitions.find? fun definition => definition.name = name

/-- The declarations of all other names. -/
def without (name : String) (definitions : List Definition) : List Definition :=
  definitions.filter fun definition => definition.name ≠ name

/-- Leaving out a declared name leaves fewer declarations; the recursion ends on this. -/
theorem length_without_lt {definitions : List Definition} {name : String} {definition : Definition}
    (h : declarationOf? definitions name = some definition) :
    (without name definitions).length < definitions.length := by
  apply List.length_filter_lt_length_iff_exists.2
  exact ⟨definition, List.mem_of_find?_eq_some h, by simpa using List.find?_some h⟩

/-- The properties `start` with those of bases written over them, one base after the other.
`available` holds the declarations whose names are not gone through yet. -/
def inheritFrom (available : List Definition) (start : Table String) :
    List String → Table String
  | [] => start
  | base :: rest =>
    match h : declarationOf? available base with
    | none => inheritFrom available start rest
    | some definition =>
      have := length_without_lt h
      -- The base starts anew without its own name; what it takes over is written below its own
      -- properties.
      let inherited := inheritFrom (without base available) .empty definition.bases
      inheritFrom available (start.update (inherited.update definition.properties)) rest
termination_by bases => (available.length, bases.length)

/-- The properties of a definition with all that it takes over. -/
def allProperties (definitions : List Definition) (definition : Definition) : Table String :=
  (inheritFrom (without definition.name definitions) .empty definition.bases).update
    definition.properties

/-- Gives every definition that extends others the properties that it takes over. -/
def inherit (definitions : List Definition) : List Definition :=
  definitions.map fun definition =>
    -- The declarations are those that were read, not those that already took over.
    if definition.bases.isEmpty then definition
    else { definition with properties := allProperties definitions definition }

end Accord.Types
