import Accord.Script.Literal

/-!
# `Accord.Script.Scope`: the type that a name is declared with

A name is looked up in the nodes around a place, innermost first. A function gives the
annotation of a parameter of that name, if it has one. A scope gives what its own statements say
about a variable of that name: an annotation, the type of a cast, or, when the variable is
initialised with another name, what that name is declared with around the scope. Such names are
followed at most `aliasLimit` times.
-/

set_option autoImplicit false

namespace Accord.Script

/-- The number of names that are followed from a variable to the one it is initialised with. -/
def aliasLimit : Nat := 8

namespace Node

/-- Whether the node is a function whose parameters and return type are looked at. -/
def isFunction (node : Node) : Bool :=
  [.functionDeclaration, .generatorFunctionDeclaration, .functionExpression, .arrowFunction,
    .methodDefinition].contains node.kind

/-- Whether the statements of the node declare variables for what is inside it. -/
def isScope (node : Node) : Bool :=
  [.program, .statementBlock, .classBody, .switchBody].contains node.kind

/-- The annotation of the first parameter of a function with a name. -/
def parameterType? (function : Node) (name : String) : Option Node := do
  let parameters ← function.child? .parameters
  let parameter ← parameters.namedChildren.find? fun parameter =>
    [.requiredParameter, .optionalParameter].contains parameter.kind &&
      (parameter.child? .pattern).any fun pattern => pattern.text == name
  parameter.child? .type

/-- The type of a cast: its last named child, when there is more than one. -/
def castType? (cast : Node) : Option Node :=
  if 1 < cast.namedChildren.length then cast.namedChildren.getLast? else none

end Node

/-- What a binding says about the type of a name. -/
inductive Binding where
  /-- The type is written down. -/
  | known (type : Node)
  /-- The type is that of another name. -/
  | sameAs (name : String)
  /-- Nothing is said. -/
  | unknown

/-- What the declaration of a variable says about its type. -/
def Binding.ofDeclarator (declarator : Node) : Binding :=
  match declarator.child? .type with
  | some ascription => .known ascription
  | none =>
    match declarator.child? .value with
    | some value =>
      if value.kind = .asExpression then
        -- A cast to a constant has no second named child.
        match value.castType? with
        | some type => .known type
        | none => .unknown
      else if value.kind = .identifier then .sameAs value.text
      else .unknown
    | none => .unknown

/-- The variable of a name that the statements of a scope declare. -/
def Node.declarator? (scope : Node) (name : String) : Option Node :=
  (scope.namedChildren.flatMap Node.declarators).find? fun declarator =>
    (declarator.child? .name).any fun found => found.text == name

/-- Looks a name up in the nodes around a place, innermost first. `follow` gives the type of the
name that a variable is initialised with. -/
def lookupWith (follow : String → List Node → Option Node) (name : String) :
    List Node → Option Node
  | [] => none
  | node :: outer =>
    -- A function without such a parameter, or with one that has no annotation, is left behind.
    match if node.isFunction then node.parameterType? name else none with
    | some ascription => some ascription
    | none =>
      match if node.isScope then node.declarator? name else none with
      | none => lookupWith follow name outer
      | some declarator =>
        match Binding.ofDeclarator declarator with
        | .known type => some type
        -- The other name is looked up from this scope on, so an inner variable of that name is not
        -- seen.
        | .sameAs other => follow other (node :: outer)
        -- A variable that says nothing ends the lookup.
        | .unknown => none

/-- The type that a name is declared with around a place, when at most so many names are followed on
the way. -/
def lookup : Nat → String → List Node → Option Node
  -- The limit is reached: one more name is not followed.
  | 0 => lookupWith fun _ _ => none
  | follows + 1 => lookupWith (lookup follows)

/-- The type that a name is declared with around a place. -/
def declaredType? (name : String) (above : List Node) : Option Node :=
  lookup aliasLimit name above

end Accord.Script
