import Accord.SourceUnit
import Accord.Types.Declaration
import Accord.Types.Inheritance
import Accord.Types.Registry

/-!
# `Accord.Types.Collect`: the registry of source units

The declarations of all units together make the registry. A unit whose declarations cannot be
told ends the collection; what was noted of the units before it stays.
-/

set_option autoImplicit false

namespace Accord.Types

/-- The declarations of a tree, with a note of how many there are. -/
def find (unit : SourceUnit) (root : Script.Node) : Report Fault (List Definition) :=
  (Report.ofExcept (declaredIn root)).andThen fun found =>
    ⟨[.typesFound found.length unit.path], .ok found⟩

/-- The registry of the types that units declare, with what they take over from each other. -/
def collect (units : List SourceUnit) : Report Fault Registry :=
  (SourceUnit.gather units find).andThen fun definitions => Registry.build (inherit definitions)

end Accord.Types
