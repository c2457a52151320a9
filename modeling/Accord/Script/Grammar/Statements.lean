import Accord.Script.Grammar.Declarations

/-!
# `Accord.Script.Grammar.Statements`: statements, imports and exports

A statement that starts with a brace is a block if it can be read as one, and an expression
otherwise. Loops over the members of something are tried before loops with a counter.
-/

set_option autoImplicit false

namespace Accord.Script.Grammar

open Scan

/-! ### Imports -/

/-- The module that names come from. -/
def fromClause : Scan (List Node) := do
  let sign ← word "from"
  return sign ++ (← token .string string?)

/-- A name that a module exports: a name or a string. -/
def exportedName : Scan (List Node) := do
  if ← nextIn "\"'" then token .string string? else name .identifier

/-- A name in a list of imports or exports, with another name if it has one. -/
def specifier (kind : Kind) : Scan (List Node) := do
  let text ← look
  let first := word? text
  let second := word? (ahead (afterName text))
  let isMark := first == some "type" || first == some "typeof"
  -- The word is a mark only in front of another name; alone, or in front of `as`, it is the name.
  let marked := isMark && second.isSome && second != some "as"
  let sign ← if marked then name .token else pure []
  let found ← exportedName
  let renamed ← (do
    if ← nextWordIs "as" then
      let sign ← word "as"
      return sign ++ (← exportedName)
    else return [])
  return group kind (sign ++ inRole .name found ++ renamed)

/-- Names taken from a module one by one. -/
def namedImports (g : Grammar) : Scan (List Node) := do
  return group .namedImports
    (← between "\x7b" "\x7d" (listed g.limit "\x7d" (specifier .importSpecifier)))

/-- All that a module exports, under one name. -/
def namespaceImport : Scan (List Node) := do
  let star ← mark "*"
  let sign ← word "as"
  return group .namespaceImport (star ++ sign ++ (← name .identifier))

/-- What is imported. -/
def importClause (g : Grammar) : Scan (List Node) := do
  if ← nextIs "\x7b" then return group .importClause (← g.namedImports)
  else if ← nextIs "*" then return group .importClause (← namespaceImport)
  else
    let default ← name .identifier
    if ← nextIs "," then
      let comma ← mark ","
      let more ← if ← nextIs "*" then namespaceImport else g.namedImports
      return group .importClause (default ++ comma ++ more)
    else return group .importClause default

/-- The attributes of an import, if it has any. -/
def optionalImportAttribute (g : Grammar) : Scan (List Node) := do
  if (← nextWordIs "with") && !(← endsHere .declaration) then
    let sign ← word "with"
    return group .importAttribute (sign ++ (← g.object))
  else return []

/-- An import, or a short name for a name in a module. -/
def importStatement (g : Grammar) : Scan (List Node) := do
  let text ← look
  let rest := ahead (afterName text)
  let isAlias := (name? rest).isSome && (ahead (afterName rest)).head? == some '='
  let isRequired := word? (ahead ((ahead (afterName rest)).drop 1)) == some "require"
  -- A name behind the equals sign is that of a module in scope, a call is a module elsewhere.
  if isAlias && !isRequired then g.importAlias
  else
    let sign ← word "import"
    let next := ahead (afterName rest)
    let isMark := word? rest == some "type" || word? rest == some "typeof"
    let opens := next.head?.any fun c => c == '\x7b' || c == '*'
    -- The same word may be what is imported, and then `from` follows it.
    let marked := isMark && (opens || (name? next).isSome && word? next != some "from")
    let typed ← if marked then name .token else pure []
    let source ← (do
      if ← nextIn "\"'" then token .string string?
      else if isAlias then
        let found ← name .identifier
        let equal ← mark "="
        let callee ← word "require"
        let given ← between "(" ")" (token .string string?)
        return group .importRequireClause (found ++ equal ++ callee ++ given)
      else
        let clause ← g.importClause
        return clause ++ (← fromClause))
    let attributes ← g.optionalImportAttribute
    return group .importStatement
      (sign ++ typed ++ source ++ attributes ++ (← semicolon .declaration))

/-! ### Exports -/

/-- The names of an export statement. -/
def exportClause (g : Grammar) : Scan (List Node) := do
  return group .exportClause
    (← between "\x7b" "\x7d" (listed g.limit "\x7d" (specifier .exportSpecifier)))

/-- What an export statement exports by default. -/
def defaultExport (g : Grammar) : Scan (List Node) := do
  let sign ← word "default"
  match declared? .statement (← look) with
  | some found => return sign ++ inRole .declaration (← g.declarationOf found)
  | none =>
    let value ← g.parse (.expression .expression)
    return sign ++ inRole .value value ++ (← semicolon .expression)

/-- What follows the word of an export statement. -/
def exported (g : Grammar) : Scan (List Node) := do
  let text ← look
  match text with
  | '*' :: more =>
    let star ← mark "*"
    if word? (ahead more) == some "as" then
      let sign ← word "as"
      let space := group .namespaceExport (star ++ sign ++ (← exportedName))
      let source ← fromClause
      return space ++ source ++ (← semicolon .declaration)
    else
      let source ← fromClause
      return star ++ source ++ (← semicolon .declaration)
  | '\x7b' :: _ =>
    let clause ← g.exportClause
    let source ← if ← nextWordIs "from" then fromClause else pure []
    return clause ++ source ++ (← semicolon .declaration)
  | '=' :: _ =>
    let equal ← mark "="
    let value ← g.parse (.expression .expression)
    return equal ++ value ++ (← semicolon .expression)
  | _ =>
    let next := ahead (afterName text)
    match word? text with
    | some "default" => g.defaultExport
    | some "as" =>
      let sign ← word "as"
      let space ← word "namespace"
      let found ← name .identifier
      return sign ++ space ++ found ++ (← semicolon .declaration)
    | some "type" =>
      if next.head? == some '\x7b' then
        let sign ← word "type"
        let clause ← g.exportClause
        let source ← if ← nextWordIs "from" then fromClause else pure []
        return sign ++ clause ++ source ++ (← semicolon .declaration)
      else return inRole .declaration (← g.declaration)
    | _ => return inRole .declaration (← g.declaration)

/-- An export. -/
def exportStatement (g : Grammar) : Scan (List Node) := do
  let decorated ← g.decorators
  let sign ← word "export"
  return group .exportStatement (decorated ++ sign ++ (← g.exported))

/-! ### Control flow -/

/-- A conditional statement. -/
def ifStatement (g : Grammar) : Scan (List Node) := do
  let sign ← word "if"
  let condition ← g.parenthesized
  let consequence ← g.parse .statement
  let alternative ← (do
    if ← nextWordIs "else" then
      let sign ← word "else"
      return group .elseClause (sign ++ (← g.parse .statement))
    else return [])
  return group .ifStatement (sign ++ condition ++ consequence ++ alternative)

/-- The statements of a case. -/
def caseBody (g : Grammar) : Scan (List Node) :=
  collect g.limit (do
    let found ← nextWord?
    if (← nextIs "\x7d") || found == some "case" || found == some "default" then return none
    -- Each statement of the case is a body of it.
    else return some (inRole .body (← g.parse .statement))) []

/-- A case of a switch, or what is done otherwise. -/
def switchCase (g : Grammar) : Scan (List Node) := do
  if ← nextWordIs "default" then
    let sign ← word "default"
    let colon ← mark ":"
    return group .switchDefault (sign ++ colon ++ (← g.caseBody))
  else
    let sign ← word "case"
    let value ← g.expressions .beforeColon
    let colon ← mark ":"
    return group .switchCase (sign ++ inRole .value value ++ colon ++ (← g.caseBody))

/-- A switch. -/
def switchStatement (g : Grammar) : Scan (List Node) := do
  let sign ← word "switch"
  let value ← g.parenthesized
  let body := group .switchBody (← between "\x7b" "\x7d" (untilMark g.limit "\x7d" g.switchCase))
  return group .switchStatement (sign ++ inRole .value value ++ inRole .body body)

/-- What the members of something are assigned to, one after the other. -/
def memberTarget (g : Grammar) : Scan (List Node) := (do
  let target ← g.chain .inside
  -- What was read has to be something that a value can be put into.
  guardThat ((kindOf? target).any assignableKinds.contains)
  return target) <|> g.pattern

/-- The header of a loop over the members of something, without its parentheses. -/
def membersHeader (g : Grammar) : Scan (List Node) := do
  let left ← (do
    match ← nextWord? with
    | some "var" =>
      let sign ← word "var"
      let found ← g.pattern
      return sign ++ inRole .left found ++ (← g.optionalInitializer .inside)
    | some "let" => return (← word "let") ++ inRole .left (← g.pattern)
    | some "const" => return (← word "const") ++ inRole .left (← g.pattern)
    | _ => return inRole .left (← g.memberTarget))
  let operator ← if ← nextWordIs "of" then word "of" else word "in"
  let right ← g.expressions .inside
  return left ++ inRole .operator operator ++ inRole .right right

/-- Expressions up to a semicolon, or nothing, in the header of a loop. -/
def headerPart (g : Grammar) : Scan (List Node) := do
  if ← nextIs ";" then return group .emptyStatement (← mark ";")
  else
    let nodes ← g.expressions .inside
    return nodes ++ (← mark ";")

/-- The header of a loop with a counter, without its parentheses. -/
def counterHeader (g : Grammar) : Scan (List Node) := do
  let start ← (do
    -- A declaration brings its own semicolon.
    match ← nextWord? with
    | some "var" => g.variableDeclaration "var" .variableDeclaration
    | some "let" => g.variableDeclaration "let" .lexicalDeclaration
    | some "const" => g.variableDeclaration "const" .lexicalDeclaration
    | _ => g.headerPart)
  let condition ← g.headerPart
  let step ← if ← nextIs ")" then pure [] else g.expressions .inside
  return start ++ condition ++ step

/-- A loop with a header in parentheses. -/
def forStatement (g : Grammar) : Scan (List Node) := do
  let sign ← word "for"
  let wait ← optionalWord "await"
  (do
    let header ← between "(" ")" g.membersHeader
    return group .forInStatement
      (sign ++ wait ++ header ++ inRole .body (← g.parse .statement))) <|>
  (do
    -- Only the members of something can be waited for.
    guardThat wait.isEmpty
    let header ← between "(" ")" g.counterHeader
    return group .forStatement (sign ++ header ++ inRole .body (← g.parse .statement)))

/-- A loop that tests first. -/
def whileStatement (g : Grammar) : Scan (List Node) := do
  let sign ← word "while"
  let condition ← g.parenthesized
  return group .whileStatement (sign ++ condition ++ inRole .body (← g.parse .statement))

/-- A loop that tests last. No semicolon is needed behind it. -/
def doStatement (g : Grammar) : Scan (List Node) := do
  let sign ← word "do"
  let body ← g.parse .statement
  let test ← word "while"
  let condition ← g.parenthesized
  return group .doStatement (sign ++ inRole .body body ++ test ++ condition ++ (← optionalMark ";"))

/-- A statement that catches errors. -/
def tryStatement (g : Grammar) : Scan (List Node) := do
  let sign ← word "try"
  let body ← g.parse .block
  let handler ← (do
    if ← nextWordIs "catch" then
      let sign ← word "catch"
      let caught ← (do
        if ← nextIs "(" then between "(" ")" do
          let found ← g.pattern
          return found ++ inRole .type (← g.optionalAscription .inside)
        else return [])
      return group .catchClause (sign ++ caught ++ inRole .body (← g.parse .block))
    else return [])
  let finalizer ← (do
    if ← nextWordIs "finally" then
      let sign ← word "finally"
      return group .finallyClause (sign ++ inRole .body (← g.parse .block))
    else return [])
  return group .tryStatement (sign ++ inRole .body body ++ handler ++ finalizer)

/-- A statement inside the scope of an object. -/
def withStatement (g : Grammar) : Scan (List Node) := do
  let sign ← word "with"
  let scope ← g.parenthesized
  return group .withStatement (sign ++ scope ++ inRole .body (← g.parse .statement))

/-- A jump, with the label that it goes to if it has one. -/
def jump (lexeme : String) (kind : Kind) : Scan (List Node) := do
  let sign ← word lexeme
  let isLabelled := (← nextWord?).isSome && !(← endsHere .declaration)
  let label ← if isLabelled then name .statementIdentifier else pure []
  return group kind (sign ++ label ++ (← semicolon .declaration))

/-- The end of a function, with its value if it has one. -/
def returnStatement (g : Grammar) : Scan (List Node) := do
  let sign ← word "return"
  if (← nextIs ";") || (← endsHere .declaration) then
    return group .returnStatement (sign ++ (← semicolon .declaration))
  else
    let value ← g.expressions .expression
    return group .returnStatement (sign ++ value ++ (← semicolon .expression))

/-- The throwing of an error. -/
def throwStatement (g : Grammar) : Scan (List Node) := do
  let sign ← word "throw"
  let value ← g.expressions .expression
  return group .throwStatement (sign ++ value ++ (← semicolon .expression))

/-! ### Statements -/

/-- An expression as a statement. -/
def expressionStatement (g : Grammar) : Scan (List Node) := do
  let value ← g.expressions .expression
  return group .expressionStatement (value ++ (← semicolon .expression))

/-- A statement with a label, if a colon follows the name, or else an expression. -/
def labelledOrExpression (g : Grammar) : Scan (List Node) := do
  let text ← look
  let isLabel := (name? text).isSome && (ahead (afterName text)).head? == some ':'
  if isLabel then
    let label ← name .statementIdentifier
    let colon ← mark ":"
    return group .labeledStatement (label ++ colon ++ inRole .body (← g.parse .statement))
  else g.expressionStatement

/-- A statement that starts with a word. -/
def wordStatement (g : Grammar) (lexeme : String) (rest : List Char) : Scan (List Node) :=
  match lexeme with
  | "import" =>
    let next := (ahead rest).head?
    -- A call or the data of the module is an expression.
    if next == some '(' || next == some '.' then g.expressionStatement else g.importStatement
  | "export" => g.exportStatement
  | "debugger" => do
    let sign ← word "debugger"
    return group .debuggerStatement (sign ++ (← semicolon .declaration))
  | "if" => g.ifStatement
  | "switch" => g.switchStatement
  | "for" => g.forStatement
  | "while" => g.whileStatement
  | "do" => g.doStatement
  | "try" => g.tryStatement
  | "with" => g.withStatement
  | "break" => jump "break" .breakStatement
  | "continue" => jump "continue" .continueStatement
  | "return" => g.returnStatement
  | "throw" => g.throwStatement
  | _ => g.labelledOrExpression

/-- Whether the decorators at the front of a text stand before an export. -/
def decoratesExport (g : Grammar) : Scan Bool := fun text =>
  match g.decorators text with
  | some (_, rest) => some (word? (ahead rest) == some "export", text)
  | none => none

/-- A statement. -/
def statement (g : Grammar) : Scan (List Node) := do
  let text ← look
  match text with
  -- An object at the start of a statement is read only if there is no block.
  | '\x7b' :: _ => g.parse .block <|> g.expressionStatement
  | ';' :: _ => return group .emptyStatement (← mark ";")
  | '@' :: _ => if ← g.decoratesExport then g.exportStatement else g.classDeclaration
  | _ =>
    -- Words that announce declarations may be names, and then they are left to the expressions.
    match declared? .statement text with
    | some found => g.declarationOf found
    | none =>
      match word? text with
      | some lexeme => g.wordStatement lexeme (afterName text)
      | none => g.expressionStatement

/-- Statements between braces. -/
def block (g : Grammar) : Scan (List Node) := do
  return group .statementBlock
    (← between "\x7b" "\x7d" (untilMark g.limit "\x7d" (g.parse .statement)))

end Accord.Script.Grammar
