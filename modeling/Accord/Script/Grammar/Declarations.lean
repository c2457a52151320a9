import Accord.Script.Grammar.Expressions

/-!
# `Accord.Script.Grammar.Declarations`: declarations of values, types and modules

`Declared` says what kind of declaration a text starts with, if it starts with one. Where an
expression may stand too, words like `type` or `declare` start a declaration only if the next
token is on the same line and fits.
-/

set_option autoImplicit false

namespace Accord.Script.Grammar

open Scan

/-! ### Variables -/

/-- A declared variable. A mark of certainty needs an annotation behind it. -/
def variableDeclarator (g : Grammar) : Scan (List Node) := do
  let found ← g.pattern
  if (← nextIs "!") && kindOf? found = some .identifier then
    let sign ← mark "!"
    return group .variableDeclarator
      (inRole .name found ++ sign ++ inRole .type (← g.ascription .declaration))
  else
    -- A pattern for the rest stands inside other patterns only.
    guardThat (kindOf? found ≠ some .restPattern)
    let declared ← g.optionalAscription .declaration
    let value ← g.optionalInitializer .expression
    return group .variableDeclarator (inRole .name found ++ inRole .type declared ++ value)

/-- How a statement that ends with declared variables may end: after the value of the last one, or
after its declaration. -/
def endOfDeclarators (declarators : List Node) : Tail :=
  match declarators.getLast? with
  | some last => if (last.child? .value).isSome then .expression else .declaration
  | none => .declaration

/-- Declared variables from the word that declares them on. -/
def variableDeclaration (g : Grammar) (lexeme : String) (kind : Kind) : Scan (List Node) := do
  let sign ← word lexeme
  let declarators ← separated g.limit g.variableDeclarator
  let stop ← semicolon (endOfDeclarators declarators)
  return group kind (sign ++ declarators ++ stop)

/-! ### Functions -/

/-- A declared function, or its signature alone. -/
def functionDeclaration (g : Grammar) : Scan (List Node) := do
  let async ← optionalWord "async"
  let sign ← word "function"
  let star ← optionalMark "*"
  let found ← name .identifier
  let given ← g.signature .declaration
  let start := async ++ sign ++ star ++ inRole .name found ++ given
  if ← nextIs "\x7b" then
    let kind := if star.isEmpty then .functionDeclaration else .generatorFunctionDeclaration
    return group kind (start ++ inRole .body (← g.parse .block))
  else
    -- A generator has a body.
    guardThat star.isEmpty
    return group .functionSignature (start ++ (← semicolon .declaration))

/-! ### Types -/

/-- A type alias. -/
def typeAlias (g : Grammar) : Scan (List Node) := do
  let sign ← word "type"
  let found ← name .typeIdentifier
  let generic ← g.optionalTypeParameters
  let equal ← mark "="
  let value ← g.parse (.type .declaration)
  return group .typeAliasDeclaration
    (sign ++ inRole .name found ++ generic ++ equal ++ inRole .value value ++
      (← semicolon .declaration))

/-- The interfaces that an interface extends. -/
def extendsTypeClause (g : Grammar) : Scan (List Node) := do
  let sign ← word "extends"
  let bases ← separated g.limit do
    return inRole .type (← g.namedType)
  return group .extendsTypeClause (sign ++ bases)

/-- The body of an interface: an object type under a name of its own. -/
def interfaceBody (g : Grammar) : Scan (List Node) := do
  let nodes ← g.parse .objectType
  return nodes.map fun node =>
    if node.isComment then node else .mk .interfaceBody (some .body) node.gap "" node.children

/-- An interface. -/
def interfaceDeclaration (g : Grammar) : Scan (List Node) := do
  let sign ← word "interface"
  let found ← name .typeIdentifier
  let generic ← g.optionalTypeParameters
  let bases ← if ← nextWordIs "extends" then g.extendsTypeClause else pure []
  let body ← g.interfaceBody
  return group .interfaceDeclaration (sign ++ inRole .name found ++ generic ++ bases ++ body)

/-- A member of an enumeration, with its value if it has one. -/
def enumMember (g : Grammar) : Scan (List Node) := do
  let key ← g.propertyName
  -- Only a member with a value is a node of its own.
  if ← nextIs "=" then
    return group .enumAssignment (inRole .name key ++ (← g.optionalInitializer .inside))
  else return inRole .name key

/-- An enumeration. -/
def enumDeclaration (g : Grammar) : Scan (List Node) := do
  let constant ← optionalWord "const"
  let sign ← word "enum"
  let found ← name .identifier
  let members ← between "\x7b" "\x7d" (listed g.limit "\x7d" g.enumMember)
  let body := inRole .body (group .enumBody members)
  return group .enumDeclaration (constant ++ sign ++ inRole .name found ++ body)

/-! ### Classes and modules -/

/-- A declared class. -/
def classDeclaration (g : Grammar) : Scan (List Node) := do
  let decorated ← g.decorators
  let abstract ← optionalWord "abstract"
  let kind := if abstract.isEmpty then .classDeclaration else .abstractClassDeclaration
  classFrom g kind (decorated ++ abstract) true

/-- The name of a module and its body, if it has one. -/
def moduleDeclaration (g : Grammar) (lexeme : String) (kind : Kind) : Scan (List Node) := do
  let sign ← word lexeme
  let found ← (do
    if ← nextIn "\"'" then token .string string?
    else nestedName g .nestedIdentifier .identifier (← name .identifier))
  let body ← if ← nextIs "\x7b" then g.parse .block else pure []
  return group kind (sign ++ inRole .name found ++ inRole .body body)

/-- A short name for a name in a module. -/
def importAlias (g : Grammar) : Scan (List Node) := do
  let sign ← word "import"
  let found ← name .identifier
  let equal ← mark "="
  let source ← nestedName g .nestedIdentifier .identifier (← name .identifier)
  return group .importAlias (sign ++ found ++ equal ++ source ++ (← semicolon .declaration))

/-! ### All of them -/

/-- The kinds of declarations. -/
inductive Declared where
  | letOrConst (lexeme : String)
  | variable
  | function
  | namedClass
  | typeAlias
  | interface
  | enumeration
  | module (lexeme : String)
  | importAlias
  /-- A declaration of what is defined elsewhere. -/
  | ambient

/-- What is expected where a declaration may stand. -/
inductive Expectation where
  /-- A declaration or an expression. -/
  | statement
  /-- A declaration alone: a word in front of it says so. -/
  | declaration
  deriving DecidableEq, Repr

/-- Whether what follows the first word of a declaration goes on with it: it starts on the same
line, or no expression could end in front of it. -/
def Expectation.continues (expected : Expectation) (rest : List Char) : Bool :=
  expected = .declaration || !ends .expression rest

/-- Whether a name follows the first word of a declaration. -/
def Expectation.startsName (expected : Expectation) (rest : List Char) : Bool :=
  (name? (ahead rest)).isSome && expected.continues rest

/-- Whether the text after the word of functions starts with the name of one. -/
def startsNamedFunction (rest : List Char) : Bool :=
  let next := ahead rest
  let start := if next.head? == some '*' then ahead (next.drop 1) else next
  (name? start).isSome

/-- The words that may follow the word for declarations of what is defined elsewhere. -/
def ambientWords : List String :=
  ["var", "let", "const", "function", "async", "class", "abstract", "type", "interface", "enum",
    "module", "namespace", "global", "import"]

/-- The declaration that a text starts with. -/
def declared? (expected : Expectation) (text : List Char) : Option Declared := do
  let found ← word? text
  let rest := afterName text
  let next := ahead rest
  match found with
  -- The word may belong to an enumeration.
  | "const" => some (if word? next == some "enum" then .enumeration else .letOrConst "const")
  | "let" =>
    let opens := next.head?.any fun c => c == '[' || c == '\x7b'
    if expected.startsName rest || opens && expected.continues rest then some (.letOrConst "let")
    else none
  | "var" => some .variable
  | "function" => if startsNamedFunction rest then some .function else none
  | "async" =>
    let isFunction := word? next == some "function" && startsNamedFunction (afterName next)
    if isFunction && expected.continues rest then some .function else none
  | "class" => if startsNamedClass text then some .namedClass else none
  | "abstract" => some .namedClass
  -- As a name it is not followed by a name and a sign.
  | "type" =>
    let sign := (ahead (afterName next)).head?
    if expected.startsName rest && (sign == some '=' || sign == some '<') then some .typeAlias
    else none
  | "interface" => some .interface
  | "enum" => some .enumeration
  | "namespace" => if expected.startsName rest then some (.module "namespace") else none
  -- A quoted module is one from elsewhere.
  | "module" =>
    let quoted := next.head?.any fun c => c == '"' || c == '\''
    if expected.startsName rest || quoted && expected.continues rest then some (.module "module")
    else none
  | "declare" =>
    let opens := next.head? == some '@' || (word? next).any ambientWords.contains
    if opens && expected.continues rest then some .ambient else none
  | "import" => if expected = .declaration then some .importAlias else none
  | _ => none

/-- A declaration of what is defined elsewhere. -/
def ambientDeclaration (g : Grammar) : Scan (List Node) := do
  let sign ← word "declare"
  let text ← look
  let body ← (do
    if word? text == some "global" then
      let scope ← word "global"
      return scope ++ (← g.parse .block)
    -- The exports of the module at hand are declared with a type.
    else if word? text == some "module" && (ahead (afterName text)).head? == some '.' then
      let module ← word "module"
      let dot ← mark "."
      let found ← name .propertyIdentifier
      let declared ← g.typeAscription .declaration
      return module ++ dot ++ found ++ declared ++ (← semicolon .declaration)
    else g.parse .declaration)
  return group .ambientDeclaration (sign ++ body)

/-- A declaration of a kind. -/
def declarationOf (g : Grammar) : Declared → Scan (List Node)
  | .letOrConst lexeme => g.variableDeclaration lexeme .lexicalDeclaration
  | .variable => g.variableDeclaration "var" .variableDeclaration
  | .function => g.functionDeclaration
  | .namedClass => g.classDeclaration
  | .typeAlias => g.typeAlias
  | .interface => g.interfaceDeclaration
  | .enumeration => g.enumDeclaration
  | .module lexeme =>
    g.moduleDeclaration lexeme (if lexeme == "module" then .moduleDeclaration else .internalModule)
  | .importAlias => g.importAlias
  | .ambient => g.ambientDeclaration

/-- A declaration behind a word that announces it. -/
def declaration (g : Grammar) : Scan (List Node) := do
  if ← nextIs "@" then g.classDeclaration
  else
    let some found := declared? .declaration (← look) | failure
    g.declarationOf found

end Accord.Script.Grammar
