import Accord.Script.Node
import Accord.Text.Quoted

/-!
# `Accord.Script.Literal`: the literal text of expressions

The literal text of an expression that builds a string is what stands in the source: the
contents of a string, the text of a template outside its slots, and for a sum the literal texts
of both sides. Other expressions have none. Escapes stay as they are spelled.

The base path of a unit is the literal text of its last constant at top level that is
initialised with a template or a sum.
-/

set_option autoImplicit false

namespace Accord.Script

namespace Node

/-- The texts of several nodes with the blanks before them, slots left out. -/
def textOutsideSlots : List Node → String
  | [] => ""
  | node :: rest =>
    let inside := if node.kind = .templateSubstitution then "" else node.text
    node.gap ++ inside ++ textOutsideSlots rest

/-- The text of a template between its backquotes, slots left out. -/
def templateText (node : Node) : String :=
  let outside := (node.lexeme ++ textOutsideSlots node.children).toList
  -- The two characters that are dropped are the backquotes.
  String.ofList (outside.drop 1).dropLast

/-- Whether the node is the operator `+`. -/
def isPlus (node : Node) : Bool :=
  node.kind = .token && node.lexeme == "+"

/-- The literal texts of two sides, one after the other; a side without one adds nothing. -/
def joinSides : Option String → Option String → Option String
  | none, none => none
  -- One literal side is enough: the other one may be a name, say, whose value is not known here.
  | left, right => some (left.getD "" ++ right.getD "")

/-- The literal text of an expression. -/
def literalText (node : Node) : Option String :=
  match node.kind with
  | .string => some (Text.unquote node.text)
  | .templateString => some node.templateText
  | .parenthesizedExpression =>
    match _h : node.namedChildren.head? with
    | some inner => literalText inner
    | none => none
  | .binaryExpression =>
    if (node.child? .operator).any isPlus then
      let left := match _h : node.child? .left with
        | some side => literalText side
        | none => none
      let right := match _h : node.child? .right with
        | some side => literalText side
        | none => none
      joinSides left right
    -- Other operators than the sum build no text.
    else none
  | _ => none
termination_by node.size
decreasing_by
  · exact size_lt_of_head? _h
  · exact size_lt_of_child? _h
  · exact size_lt_of_child? _h

/-- Whether an expression is a template, or a sum with a string in it. -/
def isStringBuilder (node : Node) : Bool :=
  match node.kind with
  | .templateString => true
  | .binaryExpression => node.literalText.isSome
  | _ => false

/-- Whether the node declares variables. -/
def isVariableStatement (node : Node) : Bool :=
  node.kind = .lexicalDeclaration || node.kind = .variableDeclaration

/-- The declaration that an exporting statement exports, and every other statement itself. -/
def exported? (statement : Node) : Option Node :=
  if statement.kind = .exportStatement then statement.child? .declaration else some statement

/-- The variables that a statement declares, exported or not. -/
def declarators (statement : Node) : List Node :=
  match statement.exported? with
  | some declaration =>
    if declaration.isVariableStatement then
      declaration.namedChildren.filter fun child => child.kind = .variableDeclarator
    else []
  | none => []

/-- The initial values at the top level of a unit that are templates or sums with a string. -/
def baseValues (root : Node) : List Node :=
  (root.namedChildren.flatMap declarators).filterMap fun declarator =>
    (declarator.child? .value).filter isStringBuilder

/-- The base path of a unit, empty when no constant gives one. -/
def basePath (root : Node) : String :=
  -- A later constant is the base path even when it has no literal text.
  (root.baseValues.getLast?.bind literalText).getD ""

end Node

end Accord.Script
