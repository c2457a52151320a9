import Accord.Json.Reader

/-!
# `Accord.Contract.Fault`: why a collection cannot be loaded

A collection is read as it comes, without a check beforehand, so a value of the wrong type is
found where it is used. Each constructor says which use failed.
-/

set_option autoImplicit false

namespace Accord.Contract

/-- Why a collection cannot be loaded. -/
inductive Fault where
  /-- Members are asked of a value that is no object, or capitals of one that is no text. -/
  | noMembers
  /-- A value has no items to go through. -/
  | notIterable
  /-- A value cannot be searched for a name. -/
  | notSearchable
  /-- A value that holds a name gives nothing for it. -/
  | notIndexable
  /-- A text is asked for and the value is none. -/
  | notText
  /-- An object stands where a list of responses is needed, and has no first element. -/
  | noFirstElement
  /-- The name of an endpoint is no text. -/
  | nameNotText
  /-- A whole number has more digits than are read. -/
  | integerTooLong (digits : Nat)
  /-- Arrays and objects stand too deep inside each other. -/
  | tooDeep
  deriving DecidableEq, Repr

/-- The fault that a text of JSON ends the run with, if what is wrong with it is not its
notation. -/
def Fault.ofReading? : Json.ReadCause → Option Fault
  | .integerTooLong digits => some (.integerTooLong digits)
  | .tooDeep => some .tooDeep
  | _ => none

end Accord.Contract
