import Accord.Number.Binary64
import Accord.Table

/-!
# `Accord.Json.Basic`: values of a JSON document

Whole numbers are kept exactly and numbers with a point or an exponent as floating-point values.
The members of an object stand in the order of their first writing; `Json.WellFormed` says that
their names are distinct, which holds of everything that is read from text.
-/

set_option autoImplicit false

namespace Accord

/-- A value of a JSON document. -/
inductive Json where
  | null
  | bool (value : Bool)
  | int (value : Int)
  | double (value : Number.Binary64)
  | string (value : String)
  | array (items : List Json)
  | object (members : List (String × Json))
  deriving Repr

namespace Json

/-- The default value is `null`. -/
instance : Inhabited Json :=
  ⟨.null⟩

/-- Whether the value counts as present: `null`, `false`, zero and empty values do not. -/
def isPresent : Json → Bool
  | .null => false
  | .bool value => value
  | .int value => value != 0
  | .double value => !value.isZero
  | .string value => !value.isEmpty
  | .array items => !items.isEmpty
  | .object members => !members.isEmpty

mutual

/-- Every object in the value has members under distinct names. -/
def WellFormed : Json → Prop
  | .array items => AllWellFormed items
  | .object members => (Entries.keys members).Nodup ∧ MembersWellFormed members
  | _ => True

/-- Every value of a list is well formed. -/
def AllWellFormed : List Json → Prop
  | [] => True
  | item :: rest => WellFormed item ∧ AllWellFormed rest

/-- Every value of a list of members is well formed. -/
def MembersWellFormed : List (String × Json) → Prop
  | [] => True
  | entry :: rest => WellFormed entry.2 ∧ MembersWellFormed rest

end

end Json

end Accord
