import Accord.Endpoint
import Accord.Script.Node
import Accord.Text.Blank
import Accord.Text.WordChar

/-!
# `Accord.Script.TypeName`: the type that a type expression comes down to

`Node.typeReference` follows a type expression to the payload type that it names. Annotations,
parentheses and `readonly` are looked through, a generic type is taken for its first argument, a
union or intersection for its first member and a qualified name for its last part. Array forms
on the way make the reference an array. Every other expression names a type only through the
member of an imported module that its text mentions first.
-/

set_option autoImplicit false

namespace Accord.Script

/-- The generic types that stand for arrays. -/
def arrayWrappers : List String :=
  ["Array", "ReadonlyArray"]

/-- The quotes around the name of a module. -/
def isModuleQuote (c : Char) : Bool :=
  c == '"' || c == '\''

/-- The characters of the name of a member. -/
def isMemberChar (c : Char) : Bool :=
  Text.isWordChar c || c == '$'

/-- The member of an imported module that a text starts with. -/
def importedHere? (text : List Char) : Option (List Char) :=
  if "import(".toList.isPrefixOf text then
    match (text.drop "import(".length).dropWhile Text.isBlank with
    | opening :: name =>
      if isModuleQuote opening then
        -- The module ends at the next quote, whichever of the two it is.
        match name.dropWhile fun c => !isModuleQuote c with
        | _ :: closed =>
          match closed.dropWhile Text.isBlank with
          -- Blanks are passed over in front of the parenthesis, and not around the dot.
          | ')' :: '.' :: member =>
            let found := member.takeWhile isMemberChar
            if found.isEmpty then none else some found
          | _ => none
        | [] => none
      else none
    | [] => none
  else none

/-- The first member of an imported module that a text mentions. -/
def importedName? : List Char → Option (List Char)
  | [] => none
  | c :: rest =>
    match importedHere? (c :: rest) with
    | some found => some found
    | none => importedName? rest

/-- What follows the last dot of a text, or all of it. -/
def lastPart (text : String) : String :=
  String.ofList (text.toList.reverse.takeWhile (· != '.')).reverse

namespace Node

/-- The type that a type expression comes down to; `isArray` says whether an array form was passed
on the way. -/
def typeReferenceFrom (isArray : Bool) (node : Node) : Option TypeReference :=
  match node.kind with
  | .typeAscription | .parenthesizedType | .readonlyType =>
    match _h : node.namedChildren.getLast? with
    | some inner => typeReferenceFrom isArray inner
    | none => none
  | .unionType | .intersectionType =>
    match _h : node.namedChildren.head? with
    | some inner => typeReferenceFrom isArray inner
    | none => none
  -- From here on the reference is one to an array, whatever is inside.
  | .arrayType =>
    match _h : node.namedChildren.head? with
    | some inner => typeReferenceFrom true inner
    | none => none
  | .genericType =>
    match _hn : node.childOfKind? [.typeIdentifier, .nestedTypeIdentifier] with
    | some name =>
      match _ha : node.childOfKind? [.typeArguments] with
      | some arguments =>
        match _hf : arguments.namedChildren.head? with
        -- Every generic type is taken for its argument; only two of them make an array of it.
        | some first => typeReferenceFrom (isArray || arrayWrappers.contains name.text) first
        | none => typeReferenceFrom isArray name
      | none => typeReferenceFrom isArray name
    | none =>
      match _ha : node.childOfKind? [.typeArguments] with
      | some arguments =>
        match _hf : arguments.namedChildren.head? with
        | some first => typeReferenceFrom isArray first
        | none => none
      | none => none
  | .typeIdentifier | .predefinedType => some ⟨node.text, .local, isArray⟩
  | .nestedTypeIdentifier => some ⟨lastPart node.text, .imported, isArray⟩
  -- All that is left over is searched as text, object types and function types among it.
  | _ => (importedName? node.text.toList).map fun name => ⟨String.ofList name, .imported, isArray⟩
termination_by node.size
decreasing_by
  · exact size_lt_of_getLast? _h
  · exact size_lt_of_head? _h
  · exact size_lt_of_head? _h
  · exact Nat.lt_trans (size_lt_of_head? _hf) (size_lt_of_childOfKind? _ha)
  · exact size_lt_of_childOfKind? _hn
  · exact size_lt_of_childOfKind? _hn
  · exact Nat.lt_trans (size_lt_of_head? _hf) (size_lt_of_childOfKind? _ha)

/-- The type that a type expression comes down to. -/
def typeReference (node : Node) : Option TypeReference :=
  typeReferenceFrom false node

end Node

end Accord.Script
