import Accord.Script.Grammar.Members

/-!
# `Accord.Script.Grammar.Classes`: classes and their members
-/

set_option autoImplicit false

namespace Accord.Script.Grammar

open Scan

/-- What a class extends. -/
def extendsClause (g : Grammar) : Scan (List Node) := do
  let sign ← word "extends"
  let bases ← separated g.limit do
    return inRole .value (← g.parse (.operand .inside))
  return group .extendsClause (sign ++ bases)

/-- The interfaces that a class implements. -/
def implementsClause (g : Grammar) : Scan (List Node) := do
  let sign ← word "implements"
  return group .implementsClause (sign ++ (← separated g.limit (g.parse (.type .inside))))

/-- What a class extends and implements, if it says so. -/
def optionalHeritage (g : Grammar) : Scan (List Node) := do
  let bases ← if ← nextWordIs "extends" then g.extendsClause else pure []
  let kept ← if ← nextWordIs "implements" then g.implementsClause else pure []
  if bases.isEmpty && kept.isEmpty then return [] else return group .classHeritage (bases ++ kept)

/-- The end of a member without a body: a semicolon, a comma or the end of a line. -/
def memberEnd (tail : Tail) : Scan (List Node) := do
  if ← nextIs "," then mark "," else semicolon tail

/-- A block that runs when its class is made. -/
def staticBlock (g : Grammar) : Scan (List Node) := do
  let sign ← word "static"
  return group .classStaticBlock (sign ++ inRole .body (← g.parse .block))

/-- Whether a block that runs when its class is made comes next. -/
def nextIsStaticBlock : Scan Bool := do
  let text ← look
  return word? text == some "static" && (ahead (afterName text)).head? == some '\x7b'

/-- A field, method or index of a class. -/
def classMember (g : Grammar) : Scan (List Node) := do
  let decorated ← g.decorators
  let declared ← optionalModifier "declare" .declaration
  let access ← optionalAccessibility .declaration
  -- Some modifiers may stand in two places, and the first one found there counts.
  let declaredLater ← optionalModifier "declare" .declaration
  let static ← optionalModifier "static" .declaration
  let override ← optionalOverride .declaration
  let abstract ← optionalModifier "abstract" .declaration
  let overrideLater ← optionalOverride .declaration
  let fixed ← optionalModifier "readonly" .declaration
  let abstractLater ← optionalModifier "abstract" .declaration
  let accessor ← optionalModifier "accessor" .declaration
  let start := decorated ++ declared ++ access ++ declaredLater ++ static ++ override ++ abstract ++
    overrideLater ++ fixed ++ abstractLater ++ accessor
  -- An index has no modifiers.
  if start.isEmpty && (← nextIsIndexSignature) then
    let member ← g.indexSignature
    return member ++ (← memberEnd .declaration)
  let async ← optionalModifier "async" .declaration
  let method ← optionalMethodMark .declaration
  let key ← g.propertyName
  let question ← (do if ← nextIs "?" then mark "?" else optionalMark "!")
  let named := start ++ async ++ method ++ inRole .name key ++ question
  -- On the next line a parenthesis starts another member.
  if (← nextIs "(") && !(← endsHere .declaration) || (← nextIs "<") then
    let given ← g.signature .declaration
    if ← nextIs "\x7b" then
      let body ← g.parse .block
      let stop ← optionalMark ";"
      return group .methodDefinition (named ++ given ++ inRole .body body) ++ stop
    else
      let isAbstract := !(abstract.isEmpty && abstractLater.isEmpty)
      let kind := if isAbstract then .abstractMethodSignature else .methodSignature
      return group kind (named ++ given) ++ (← memberEnd .declaration)
  else
    guardThat (async.isEmpty && method.isEmpty)
    let declared ← g.optionalAscription .declaration
    let value ← g.optionalInitializer .expression
    let field := group .publicFieldDefinition (named ++ inRole .type declared ++ value)
    return field ++ (← memberEnd (if value.isEmpty then .declaration else .expression))

/-- The members of a class between braces. -/
def classBody (g : Grammar) : Scan (List Node) := do
  let nodes ← between "\x7b" "\x7d" <| untilMark g.limit "\x7d" do
    if ← nextIs ";" then mark ";"
    else if ← nextIsStaticBlock then g.staticBlock
    else g.classMember
  return group .classBody nodes

/-- A class from its word on. A declared class has a name, a class in an expression may have one. -/
def classFrom (g : Grammar) (kind : Kind) (start : List Node) (isNamed : Bool) :
    Scan (List Node) := do
  let sign ← word "class"
  -- Whether the class of an expression has a name was seen before its word was read.
  let found ← if isNamed then name .typeIdentifier else pure []
  let generic ← g.optionalTypeParameters
  let heritage ← g.optionalHeritage
  let body ← g.classBody
  return group kind
    (start ++ sign ++ inRole .name found ++ generic ++ heritage ++ inRole .body body)

/-- Whether the class at the front of a text has a name. -/
def startsNamedClass (text : List Char) : Bool :=
  match word? (ahead (afterName text)) with
  | some found => found != "extends" && found != "implements"
  | none => false

/-- A class in an expression. -/
def classExpression (g : Grammar) : Scan (List Node) := do
  let decorated ← g.decorators
  let text ← look
  classFrom g .classExpression decorated (startsNamedClass text)

end Accord.Script.Grammar
