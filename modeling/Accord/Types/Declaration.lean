import Accord.Number.Integer
import Accord.Script.TypeName
import Accord.Script.Walk
import Accord.Text.Blank
import Accord.Text.Quoted
import Accord.Types.Definition

/-!
# `Accord.Types.Declaration`: type declarations in syntax trees

Interfaces, type aliases and enumerations become definitions wherever in a tree they stand. The
properties of an interface, and of an alias for an object type, are its property signatures.
Every other alias has one entry, `type`, with the text of the type. The properties of an
enumeration are its members with their values as they are written; a member without one
continues the sequence of whole numbers. Where the next number of the sequence is too long to be
written (`Fault.numberTooLong`), the declarations of the tree cannot be told.
-/

set_option autoImplicit false

namespace Accord.Types

open Script (Node)

/-- Why the declarations of a tree cannot be told. -/
inductive Fault where
  /-- The number of a member has more digits than are written. -/
  | numberTooLong
  deriving DecidableEq, Repr

/-- The wording of a fault. -/
def Fault.message : Fault → String
  | .numberTooLong =>
    s!"Exceeds the limit ({Number.maxDigits} digits) for integer string conversion; " ++
      "use sys.set_int_max_str_digits() to increase the limit"

/-- The text of the child in a role, empty when there is none. -/
def textIn (role : Script.Role) (node : Node) : String :=
  ((node.child? role).map Node.text).getD ""

/-- The name that a declaration or member is written with. -/
def nameOf (node : Node) : String :=
  Text.unquote (textIn .name node)

/-! ### Properties -/

/-- The declared text of a property signature. -/
def declaredText (signature : Node) : String :=
  match (signature.child? .type).bind fun ascription => ascription.namedChildren.head? with
  -- Of an object type written in place the text does not show its members.
  | some declared => if declared.kind = .objectType then objectText else Text.squash declared.text
  | none => "any"

/-- The property signatures of an object type or the body of an interface. -/
def propertySignatures (body : Node) : List Node :=
  body.namedChildren.filter fun member => member.kind = .propertySignature

/-- The properties of an object type or the body of an interface. -/
def propertiesOf (body : Node) : Table String :=
  .ofList ((propertySignatures body).map fun signature =>
    (nameOf signature, declaredText signature))

/-! ### Interfaces and aliases -/

/-- The name of what an interface extends: the last part of it, arguments left aside. -/
def baseName (base : Node) : String :=
  let named :=
    if base.kind = .genericType then
      (base.childOfKind? [.typeIdentifier, .nestedTypeIdentifier]).getD base
    else base
  Script.lastPart named.text

/-- The names that an interface extends. -/
def basesOf (declaration : Node) : List String :=
  match declaration.childOfKind? [.extendsTypeClause] with
  | some clause => clause.namedChildren.map baseName
  | none => []

/-- The definition of an interface. -/
def ofInterface (declaration : Node) : Definition :=
  { name := textIn .name declaration
    kind := .interface
    properties := ((declaration.child? .body).map propertiesOf).getD .empty
    bases := basesOf declaration }

/-- The name of the entry that holds the text of an alias. -/
def aliasEntry : String := "type"

/-- The properties of an alias. -/
def aliasProperties : Option Node → Table String
  | some value =>
    if value.kind = .objectType then propertiesOf value
    else .ofList [(aliasEntry, Text.squash value.text)]
  | none => .ofList [(aliasEntry, "any")]

/-- The definition of an alias. -/
def ofAlias (declaration : Node) : Definition :=
  { name := textIn .name declaration
    kind := .alias
    properties := aliasProperties (declaration.child? .value)
    bases := [] }

/-! ### Enumerations -/

/-- The value of the next member without one; none when the last value is no whole number. -/
abbrev Sequence := Option Int

/-- The value of a member that continues a sequence: the next number, or an empty text behind a
value that is no whole number. -/
def Sequence.text : Sequence → Except Fault String
  | some number =>
    match Number.decimal? number with
    | some text => .ok text
    | none => .error .numberTooLong
  | none => .ok ""

/-- A member with a value in its declaration: its name and value, and the sequence behind it. -/
def assignedMember (member : Node) : (String × String) × Sequence :=
  match member.child? .value with
  | some value =>
    -- Behind a text there is no next number.
    if value.kind = .string then ((nameOf member, Text.unquote value.text), none)
    -- The text is kept as it is written; only the sequence asks for its number.
    else ((nameOf member, value.text), (Number.integer? value.text).map (· + 1))
  | none => ((nameOf member, ""), none)

/-- A member with its name and value, and the sequence behind it; nothing for a node that is no
member. -/
def enumMember (sequence : Sequence) (member : Node) :
    Except Fault (Option ((String × String) × Sequence)) :=
  match member.kind with
  | .enumAssignment => .ok (some (assignedMember member))
  | .propertyIdentifier | .string | .number => do
    return some ((Text.unquote member.text, ← sequence.text), sequence.map (· + 1))
  | _ => .ok none

/-- The members of an enumeration with their values. -/
def enumEntries (sequence : Sequence) : List Node → Except Fault (List (String × String))
  | [] => .ok []
  | member :: rest => do
    match ← enumMember sequence member with
    | some (entry, next) => return entry :: (← enumEntries next rest)
    -- A comment leaves the sequence as it is.
    | none => enumEntries sequence rest

/-- The nodes in the body of an enumeration. -/
def memberNodes (declaration : Node) : List Node :=
  ((declaration.child? .body).map Node.namedChildren).getD []

/-- The definition of an enumeration. -/
def ofEnumeration (declaration : Node) : Except Fault Definition := do
  let entries ← enumEntries (some 0) (memberNodes declaration)
  return {
    name := textIn .name declaration
    kind := .enumeration
    properties := .ofList entries
    bases := [] }

/-! ### Trees -/

/-- The definition of a node, if it declares a type. -/
def definition? (node : Node) : Option (Except Fault Definition) :=
  match node.kind with
  | .interfaceDeclaration => some (.ok (ofInterface node))
  | .typeAliasDeclaration => some (.ok (ofAlias node))
  | .enumDeclaration => some (ofEnumeration node)
  | _ => none

/-- The type declarations of a tree, in the order of the text, or the fault of the first one that
cannot be told. -/
def declaredIn (root : Node) : Except Fault (List Definition) :=
  (root.walk.filterMap fun place => definition? place.node).mapM id

end Accord.Types
