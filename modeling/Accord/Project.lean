import Accord.Contract.Document
import Accord.Lint
import Accord.Settings
import Accord.Types.Collect

/-!
# `Accord.Project`: a run from the files to the findings

A run loads the collection, then the sources with calls, then those with type declarations, and
compares them. Each of the three stages notes how much it found. The collection and the types
may end a run (`Fault`); sources that cannot be read are left out.
-/

set_option autoImplicit false

namespace Accord.Project

open Files (Path Workspace)

/-- The inputs of a run. -/
structure Inputs where
  requests : Path
  types : Path
  collection : Path
  deriving DecidableEq, Repr

/-- Why a run gives no findings. -/
inductive Fault where
  /-- The collection cannot be loaded. -/
  | document (fault : Contract.DocumentFault)
  /-- The registry of the types cannot be built. -/
  | types (fault : Types.Fault)
  deriving DecidableEq, Repr

/-- The wording of a fault, if it has one. -/
def Fault.message? : Fault → Option String
  | .document fault => fault.message?
  | .types fault => some fault.message

/-- The endpoints of the contract. -/
def contract [Json.Nesting] (workspace : Workspace) (path : Path) :
    Report Contract.DocumentFault (List ContractEndpoint) :=
  (Contract.loadFile workspace path).andThen fun found =>
    ⟨[.contractLoaded found.length path.text], .ok found⟩

/-- The endpoints that the sources below a path call. -/
def code {ε : Type} (workspace : Workspace) (settings : Settings) (path : Path) :
    Report ε (List CodeEndpoint) :=
  (Sources.load workspace settings.filter path).andThen (Calls.extract settings.names)

/-- The types that the sources below a path declare. -/
def types (workspace : Workspace) (settings : Settings) (path : Path) :
    Report Types.Fault Types.Registry :=
  (Sources.load workspace settings.filter path).andThen Types.collect

/-- The findings of a run. -/
def lint [Json.Nesting] (workspace : Workspace) (settings : Settings) (inputs : Inputs) :
    Report Fault (List Lint.Finding) :=
  ((contract workspace inputs.collection).mapError .document).andThen fun expected =>
    -- A collection that cannot be loaded ends the run before any source is read.
    (code workspace settings inputs.requests).andThen fun called =>
      (Report.note (.callsExtracted called.length inputs.requests.text)).andThen fun _ =>
        ((types workspace settings inputs.types).mapError .types).andThen fun registry =>
          (Report.note (.typesCollected registry.size inputs.types.text)).andThen fun _ =>
            .ok (Lint.lint expected called registry)

end Accord.Project
