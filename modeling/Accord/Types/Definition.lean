import Accord.Table
import Accord.Text.Identifier

/-!
# `Accord.Types.Definition`: declared types and what a property declares

A `Definition` is a declared interface, type alias or enumeration. `describe` classifies the
text that a property declares: an object written in place, an array, the name of another type,
or else a primitive type (which is also what every type expression counts as that is no plain
name).
-/

set_option autoImplicit false

namespace Accord.Types

/-- The mark that makes an array of a type. -/
def arrayMark : String := "[]"

/-- The text that stands for an object type written in place. -/
def objectText : String := "object"

/-- The names of the primitive types. -/
def primitiveNames : List String :=
  ["string", "number", "boolean", "any", "unknown"]

/-- The type names that accept every value. -/
def openNames : List String :=
  ["any", "unknown"]

/-- The kinds of declarations. -/
inductive Kind where
  | interface
  | alias
  | enumeration
  deriving DecidableEq, Repr

/-- The word for a kind. -/
def Kind.text : Kind → String
  | .interface => "interface"
  | .alias => "alias"
  | .enumeration => "enum"

/-- A declared type. The properties of an enumeration are its members with their values, those of
the others are declared types; `bases` are the names that an interface extends. -/
structure Definition where
  name : String
  kind : Kind
  properties : Table String
  bases : List String

/-- What kind of value a property declares. -/
inductive Shape where
  /-- A type without properties of its own. -/
  | primitive
  | array
  /-- An object type written in place. -/
  | object
  /-- The name of a type. -/
  | reference
  deriving DecidableEq, Repr

/-- The word for a shape. -/
def Shape.text : Shape → String
  | .primitive => "primitive"
  | .array => "array"
  | .object => "object"
  | .reference => "reference"

/-- A declared property type: its shape and its name, which for an array is that of the elements. -/
structure Descriptor where
  shape : Shape
  typeName : String
  deriving DecidableEq, Repr

/-- The declared text that a descriptor stands for. -/
def Descriptor.declared (descriptor : Descriptor) : String :=
  if descriptor.shape = .array then descriptor.typeName ++ arrayMark else descriptor.typeName

/-- A type text without one array mark at its end, if it has one. -/
def element? (text : String) : Option String :=
  let chars := text.toList
  if arrayMark.toList.isSuffixOf chars then
    some (String.ofList (chars.take (chars.length - arrayMark.length)))
  else none

/-- Whether a type text is a plain name. A dollar sign counts as a letter. -/
def isTypeName (text : String) : Bool :=
  -- The dollar sign is put in the place of a letter before the characters are tested.
  Text.isName (text.toList.map fun c => if c = '$' then '_' else c)

/-- Classifies a declared text. -/
def describeText (text : String) : Descriptor :=
  if text = objectText then ⟨.object, text⟩
  else
    match element? text with
    | some element => ⟨.array, element⟩
    | none =>
      -- A union or a generic type is no plain name and counts as primitive.
      if primitiveNames.contains text || !isTypeName text then ⟨.primitive, text⟩
      else ⟨.reference, text⟩

/-- Classifies the declared text of a property, if the type has it. -/
def Definition.describe (definition : Definition) (property : String) : Option Descriptor :=
  (definition.properties.get? property).map describeText

end Accord.Types
