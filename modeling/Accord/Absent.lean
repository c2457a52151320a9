/-!
# `Accord.Absent`: inputs that have to be given

The stages of a run are given their inputs by the stage before. An input that is not given at
all is an error of its own, and `Absent.message` says which one it is.
-/

set_option autoImplicit false

namespace Accord

/-- An input that is not given. -/
inductive Absent where
  /-- The source units to read. -/
  | sources
  /-- The collection to load. -/
  | collection
  /-- One of the three sides of a comparison. -/
  | comparison
  deriving DecidableEq, Repr

namespace Absent

/-- The wording of an input that is not given. -/
def message : Absent → String
  | .sources => "sources must not be None"
  | .collection => "collection must not be None"
  | .comparison => "contract, code and types must all be provided"

/-- The input, if it is given. -/
def require {α : Type} (absent : Absent) (input : Option α) : Except Absent α :=
  match input with
  | some value => .ok value
  | none => .error absent

end Absent

end Accord
