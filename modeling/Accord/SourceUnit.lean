import Accord.Report
import Accord.Script.Parse

/-!
# `Accord.SourceUnit`: source files and their syntax trees

A unit whose path ends in `.tsx` or `.jsx` holds markup, every other one holds casts. A unit
that does not keep to the grammar is left out and noted.
-/

set_option autoImplicit false

namespace Accord

/-- A source file: its path and its text. -/
structure SourceUnit where
  path : String
  text : String
  deriving DecidableEq, Repr

namespace SourceUnit

/-- The endings of the paths of units with markup. -/
def markupExtensions : List String :=
  [".tsx", ".jsx"]

/-- The language of a unit. -/
def dialect (unit : SourceUnit) : Script.Dialect :=
  if markupExtensions.any fun extension => extension.toList.isSuffixOf unit.path.toList then .markup
  else .casts

/-- The syntax tree of a unit. -/
def tree? (unit : SourceUnit) : Option Script.Node :=
  Script.parse unit.dialect unit.text

/-- What a stage finds in the trees of units, unit by unit. -/
def gather {ε α : Type} (units : List SourceUnit)
    (stage : SourceUnit → Script.Node → Report ε (List α)) : Report ε (List α) :=
  Report.gather (fun unit =>
    match unit.tree? with
    | some tree => stage unit tree
    | none => ⟨[.unitSkipped unit.path], .ok []⟩) units

end SourceUnit

end Accord
