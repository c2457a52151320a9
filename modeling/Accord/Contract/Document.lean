import Accord.Contract.Collection
import Accord.Files.Tree

/-!
# `Accord.Contract.Document`: the endpoints of a collection file

A collection file is JSON text whose value is an object. `DocumentFault.message?` words the
faults that a user can mend; a fault without a message is a collection of the wrong form.
-/

set_option autoImplicit false

namespace Accord.Contract

open Files (AccessCause Path Workspace accessMessage)

/-- Why a collection file cannot be loaded. -/
inductive DocumentFault where
  /-- The path leads to no file. -/
  | access (path : Path) (cause : AccessCause)
  /-- The octets of the file are no text. -/
  | octets (fault : Text.OctetFault)
  /-- The text is no JSON document. -/
  | notJson (path : Path) (fault : Json.ReadFault)
  /-- The value is no object. -/
  | notCollection (path : Path)
  /-- The collection does not have the form of one. -/
  | content (fault : Fault)
  deriving DecidableEq, Repr

/-- The wording of a fault in the values of a collection, if it has one. -/
def Fault.message? : Fault → Option String
  | .integerTooLong digits => some (Json.ReadCause.integerTooLong digits).message
  | .nameNotText => some "1 validation error for ContractEndpoint"
  | _ => none

/-- The wording of a fault, if it has one. -/
def DocumentFault.message? : DocumentFault → Option String
  | .access path cause => some s!"Cannot read contract {path}: {accessMessage path cause}"
  | .octets fault => some fault.message
  | .notJson path fault => some s!"Contract {path} is not valid JSON: {fault.message}"
  | .notCollection path => some s!"Contract {path} is not a Postman collection"
  | .content fault => fault.message?

/-- The value of a collection file, which has to be an object. -/
def readDocument [Json.Nesting] (workspace : Workspace) (path : Path) : Except DocumentFault Json :=
  match workspace.readText path with
  | .error (.access cause) => .error (.access path cause)
  | .error (.octets fault) => .error (.octets fault)
  | .ok text =>
    match Json.readChars text with
    | .error fault =>
      -- A text that exceeds a limit of the reader is not reported as one that is no JSON.
      match Fault.ofReading? fault.cause with
      | some fault => .error (.content fault)
      | none => .error (.notJson path fault)
    | .ok (.object members) => .ok (.object members)
    | .ok _ => .error (.notCollection path)

/-- The endpoints of a collection file, in the order of the document. -/
def loadFile [Json.Nesting] (workspace : Workspace) (path : Path) :
    Report DocumentFault (List ContractEndpoint) :=
  (Report.ofExcept (readDocument workspace path)).andThen fun collection =>
    (load collection).mapError .content

end Accord.Contract
