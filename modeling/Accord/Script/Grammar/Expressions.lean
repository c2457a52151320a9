import Accord.Script.Grammar.Classes

/-!
# `Accord.Script.Grammar.Expressions`: expressions

From the loosest to the tightest: conditional expressions, casts with `as`, operators between
two operands by their level, operators in front of an operand, and what may stand behind one
(calls, members, marks). An assignment takes the place of an operand when its left side can be
assigned to.

On a new line an operator goes on with the expression only where no statement ends before it.
-/

set_option autoImplicit false

namespace Accord.Script.Grammar

open Scan

/-- Expressions with commas between them. -/
def expressions (g : Grammar) (tail : Tail) : Scan (List Node) := do
  let first ← g.parse (.expression tail)
  if ← nextIs "," then
    let more ← collect g.limit (do
      if ← nextIs "," then
        let comma ← mark ","
        return some (comma ++ (← g.parse (.expression tail)))
      else return none) []
    return group .sequenceExpression (first ++ more)
  else return first

/-! ### Operands that bring their own marks -/

/-- An expression between parentheses. -/
def parenthesized (g : Grammar) : Scan (List Node) := do
  return group .parenthesizedExpression <| ← between "(" ")" do
    let inside ← g.expressions .inside
    return inside ++ inRole .type (← g.optionalAscription .inside)

/-- A part of a template. -/
def templatePart (g : Grammar) : Scan (Option (List Node)) := do
  match ← get with
  | '`' :: _ => return none
  | '$' :: '\x7b' :: _ =>
    let opening ← tokenHere .token (exactly "$\x7b".toList)
    let inside ← g.expressions .inside
    return some (group .templateSubstitution (opening ++ inside ++ (← mark "\x7d")))
  -- The text of a template has no blanks to pass over, so it is read where it stands.
  | _ => return some (← tokenHere .stringFragment templateChunk?)

/-- A template. -/
def template (g : Grammar) : Scan (List Node) := do
  let opening ← mark "`"
  let parts ← collect g.limit (templatePart g) []
  return group .templateString (opening ++ parts ++ (← tokenHere .token (exactly ['`'])))

/-- A spread element or an expression. -/
def spreadOrExpression (g : Grammar) : Scan (List Node) := do
  if ← nextIs "..." then
    let dots ← mark "..."
    return group .spreadElement (dots ++ (← g.parse (.expression .inside)))
  else g.parse (.expression .inside)

/-- An array. -/
def array (g : Grammar) : Scan (List Node) := do
  return group .array (← between "[" "]" (listedWithHoles g.limit "]" g.spreadOrExpression))

/-- Whether the name at the front of a text stands alone in an object. -/
def startsShorthand (text : List Char) : Bool :=
  (name? text).isSome &&
    (ahead (afterName text)).head?.any fun c => c == ',' || c == '\x7d'

/-- A member of an object. -/
def objectMember (g : Grammar) : Scan (List Node) := do
  let text ← look
  if "...".toList.isPrefixOf text then g.spreadOrExpression
  else if startsShorthand text then name .shorthandPropertyIdentifier
  else
    let access ← optionalAccessibility .inside
    let static ← optionalModifier "static" .inside
    let override ← optionalOverride .inside
    let fixed ← optionalModifier "readonly" .inside
    let async ← optionalModifier "async" .inside
    let method ← optionalMethodMark .inside
    let start := access ++ static ++ override ++ fixed ++ async ++ method
    let key ← g.propertyName
    -- Modifiers belong to methods, so behind one no value is expected.
    if start.isEmpty && (← nextIs ":") then
      let colon ← mark ":"
      let value ← g.parse (.expression .inside)
      return group .pair (inRole .key key ++ colon ++ inRole .value value)
    else
      let question ← optionalMark "?"
      let given ← g.signature .inside
      let body ← g.parse .block
      return group .methodDefinition
        (start ++ inRole .name key ++ question ++ given ++ inRole .body body)

/-- An object. -/
def object (g : Grammar) : Scan (List Node) := do
  return group .object
    (← between "\x7b" "\x7d" (listedWithHoles g.limit "\x7d" g.objectMember))

/-- A function in an expression, from its word on. -/
def functionExpression (g : Grammar) : Scan (List Node) := do
  let async ← optionalWord "async"
  let sign ← word "function"
  let star ← optionalMark "*"
  let found ← if ← nextIn "(<" then pure [] else name .identifier
  let given ← g.signature .inside
  let body ← g.parse .block
  let kind := if star.isEmpty then .functionExpression else .generatorFunction
  return group kind (async ++ sign ++ star ++ inRole .name found ++ given ++ inRole .body body)

/-! ### Arrow functions -/

/-- What an arrow function computes. A block is tried before an object. -/
def arrowBody (g : Grammar) (tail : Tail) : Scan (List Node) := do
  if ← nextIs "\x7b" then g.parse .block <|> g.parse (.expression tail)
  else g.parse (.expression tail)

/-- An arrow function from its parameters on. -/
def arrowFrom (g : Grammar) (tail : Tail) (start : List Node) : Scan (List Node) := do
  let arrow ← mark "=>"
  let body ← g.arrowBody tail
  return group .arrowFunction (start ++ arrow ++ inRole .body body)

/-- An arrow function with a parameter list. Where a colon has to follow, it does. -/
def arrowFunction (g : Grammar) (tail : Tail) : Scan (List Node) := do
  let async ← optionalWord "async"
  let given ← g.signature .beforeArrow
  let function ← arrowFrom g tail (async ++ given)
  let isAnnotated := given.any fun node => node.role = some .returnType
  -- Otherwise the colon that was read as an annotation is that of the condition.
  guardThat (tail ≠ .beforeColon || !isAnnotated || (← nextIs ":"))
  return function

/-- An arrow function with one parameter that stands for itself. -/
def arrowOfName (g : Grammar) (tail : Tail) : Scan (List Node) := do
  let isAsync := (← nextWordIs "async") && (name? (ahead (afterName (← look)))).isSome
  let async ← if isAsync then word "async" else pure []
  let found ← name .identifier
  arrowFrom g tail (async ++ found)

/-- What follows the parameters that a text starts with. -/
inductive AfterParameters where
  /-- The arrow of an arrow function. -/
  | arrow
  /-- A colon: the annotation of an arrow function or part of a conditional expression. -/
  | colon
  | other

/-- What follows the parentheses at the front of a text. -/
def afterParameters (text : List Char) : AfterParameters :=
  match afterParenthesis text with
  | some rest =>
    let next := ahead rest
    if "=>".toList.isPrefixOf next then .arrow
    else if next.head? == some ':' then .colon
    else .other
  | none => .other

/-- An arrow function if one starts here, otherwise what the last argument reads. -/
def arrowOr (g : Grammar) (tail : Tail) (text : List Char) (other : Scan (List Node)) :
    Scan (List Node) :=
  match afterParameters text with
  | .arrow => g.arrowFunction tail
  -- The colon may be that of a condition, and then there is no arrow further on.
  | .colon => g.arrowFunction tail <|> other
  | .other => other

/-! ### Words -/

/-- The words that mean something of their own where an operand is expected. -/
def operandWords : List (String × Kind) :=
  [("this", .this), ("super", .superclass), ("true", .trueLiteral), ("false", .falseLiteral),
    ("null", .nullLiteral), ("undefined", .undefinedLiteral)]

/-- An operand that starts with the word for asynchronous functions. -/
def asyncOperand (g : Grammar) (tail : Tail) : Scan (List Node) := do
  let behind := afterName (← look)
  let rest := ahead behind
  -- At the end of a line the word is a name.
  if ends tail behind then name .identifier
  else match rest with
  -- A call of something of that name looks like the parameters of an arrow up to the arrow.
  | '(' :: _ => arrowOr g tail rest (name .identifier)
  | '<' :: _ => g.arrowFunction tail <|> name .identifier
  | _ =>
    match word? rest with
    | some "function" => g.functionExpression
    | some _ =>
      if "=>".toList.isPrefixOf (ahead (afterName rest)) then g.arrowOfName tail
      else name .identifier
    | none =>
      if "=>".toList.isPrefixOf rest then g.arrowOfName tail else name .identifier

/-- An operand that starts with the word for imports: a call, or the data of the module. -/
def importOperand (g : Grammar) : Scan (List Node) := do
  if (ahead (afterName (← look))).head? == some '.' then
    let sign ← word "import"
    let dot ← mark "."
    return group .metaProperty (sign ++ dot ++ (← word "meta"))
  else
    let callee ← token .importWord (exactWord "import")
    return group .callExpression (inRole .function callee ++ inRole .arguments (← g.arguments))

/-- An operand that starts with a word. -/
def wordOperand (g : Grammar) (tail : Tail) : Scan (List Node) := do
  let text ← look
  let some found := word? text | failure
  match operandWords.lookup found with
  | some kind => name kind
  | none =>
    if found == "function" then g.functionExpression
    else if found == "class" then g.classExpression
    else if found == "async" then g.asyncOperand tail
    else if found == "import" then g.importOperand
    else if "=>".toList.isPrefixOf (ahead (afterName text)) then g.arrowOfName tail
    else name .identifier

/-- An operand without marks in front of it or behind it. -/
def primary (g : Grammar) (tail : Tail) : Scan (List Node) := do
  let text ← look
  match text with
  | '(' :: _ => arrowOr g tail text g.parenthesized
  | '[' :: _ => g.array
  | '\x7b' :: _ => g.object
  | '`' :: _ => g.template
  | '/' :: _ => token .regex regex?
  | '#' :: _ => token .privatePropertyIdentifier privateName?
  | '@' :: _ => g.classExpression
  | c :: _ =>
    if c = '"' || c = '\'' then token .string string?
    else if c.isDigit || c = '.' then token .number number?
    else g.wordOperand tail
  | [] => failure

/-! ### What stands behind an operand -/

/-- A member of what was read. -/
def memberOf (read access : List Node) : Scan (List Node) := do
  let property ← (do
    if ← nextIs "#" then token .privatePropertyIdentifier privateName?
    else name .propertyIdentifier)
  return group .memberExpression (read ++ access ++ property)

/-- An element of what was read. -/
def elementOf (g : Grammar) (read access : List Node) : Scan (List Node) := do
  let index ← between "[" "]" (g.expressions .inside)
  return group .subscriptExpression (read ++ access ++ index)

/-- A call of what was read. -/
def callOf (g : Grammar) (read access : List Node) : Scan (List Node) := do
  let generic ← if ← nextIs "<" then g.typeArguments else pure []
  let given ← g.arguments
  return group .callExpression
    (inRole .function read ++ access ++ generic ++ inRole .arguments given)

/-- A step behind the mark for what may be missing. -/
def optionalStep (g : Grammar) (read : List Node) : Scan (List Node) := do
  let access ← token .optionalChain (exactly "?.".toList)
  -- A bracket or a parenthesis behind the mark is a step of its own kind.
  if ← nextIn "(<" then g.callOf read access
  else if ← nextIs "[" then g.elementOf read access
  else memberOf read access

/-- Whether type arguments end here when no call follows them: an operand cannot come next. -/
def nextEndsTypeArguments (tail : Tail) : Scan Bool := do
  let text ← look
  let isEnd := text.head?.any fun c => ")],;:\x7d\x7b.?=".toList.contains c
  return text.isEmpty || isEnd || word? text == some "implements" || (← endsHere tail)

/-- Type arguments of what was read, with a call behind them or without one. -/
def genericStep (g : Grammar) (tail : Tail) (read : List Node) : Scan (List Node) := do
  let generic ← g.typeArguments
  if ← nextIs "(" then
    let given ← g.arguments
    return group .callExpression
      (inRole .function read ++ generic ++ inRole .arguments given)
  else
    guardThat (← nextEndsTypeArguments tail)
    return group .instantiationExpression (read ++ generic)

/-- Whether the mark for what may be missing comes next. -/
def startsOptionalChain : List Char → Bool
  | '?' :: '.' :: rest => !rest.head?.any Char.isDigit
  | _ => false

/-- One more step behind what was read. -/
def postfixStep (g : Grammar) (tail : Tail) (read : List Node) : Scan (Option (List Node)) := do
  if ← endsHere tail then return none
  let text ← look
  match text with
  | '.' :: next :: _ =>
    if next = '.' then return none
    else
      let dot ← mark "."
      return some (← memberOf read dot)
  | '(' :: _ => return some (← g.callOf read [])
  | '[' :: _ => return some (← g.elementOf read [])
  | '`' :: _ =>
    return some (group .callExpression (inRole .function read ++ inRole .arguments (← g.template)))
  -- An exclamation mark in front of an equals sign is half of a comparison.
  | '!' :: rest =>
    if rest.head? == some '=' then return none
    else return some (group .nonNullExpression (read ++ (← mark "!")))
  -- Type arguments are tried; if they do not close as such, the bracket is an operator.
  | '<' :: _ => (do return some (← g.genericStep tail read)) <|> pure none
  | '+' :: '+' :: _ =>
    return some (group .updateExpression (read ++ inRole .operator (← mark "++")))
  | '-' :: '-' :: _ =>
    return some (group .updateExpression (read ++ inRole .operator (← mark "--")))
  | _ => if startsOptionalChain text then return some (← g.optionalStep read) else return none

/-! ### Operators in front of an operand -/

/-- What an object is made from: a member of something, without calls. -/
def constructed (g : Grammar) (tail : Tail) : Scan (List Node) := do
  -- The first call behind the word belongs to it, so calls are no part of what is made.
  let first ← if ← nextWordIs "new" then g.parse (.operand tail) else g.primary tail
  extend g.limit (fun read => do
    if ← endsHere tail then return none
    match ← look with
    | '.' :: next :: _ =>
      if next = '.' then return none
      else
        let dot ← mark "."
        return some (← memberOf read dot)
    | '[' :: _ => return some (← g.elementOf read [])
    | '!' :: rest =>
      if rest.head? == some '=' then return none
      else return some (group .nonNullExpression (read ++ (← mark "!")))
    | _ => return none) first

/-- A new object, or the target of its making. -/
def newOperand (g : Grammar) (tail : Tail) : Scan (List Node) := do
  let sign ← word "new"
  if ← nextIs "." then
    let dot ← mark "."
    return group .metaProperty (sign ++ dot ++ (← word "target"))
  else
    let source ← g.constructed tail
    let generic ← (do if ← nextIs "<" then g.typeArguments <|> pure [] else return [])
    let isCalled := (← nextIs "(") && !(← endsHere tail)
    let given ← if isCalled then g.arguments else pure []
    return group .newExpression (sign ++ source ++ generic ++ inRole .arguments given)

/-- An operand with all that stands behind it. -/
def chain (g : Grammar) (tail : Tail) : Scan (List Node) := do
  let first ← if ← nextWordIs "new" then g.newOperand tail else g.primary tail
  extend g.limit (g.postfixStep tail) first

/-- The kinds of expressions that can be assigned to. -/
def assignableKinds : List Kind :=
  [.identifier, .undefinedLiteral, .memberExpression, .subscriptExpression, .nonNullExpression,
    .object, .array, .objectPattern, .arrayPattern, .parenthesizedExpression]

/-- The marks that assign a changed value. -/
def augmentedMarks : List String :=
  [">>>=", "**=", "<<=", ">>=", "&&=", "||=", "??=", "+=", "-=", "*=", "/=", "%=", "^=", "&=", "|="]

/-- The assignment to what was read, if its mark comes next. -/
def optionalAssignment (g : Grammar) (tail : Tail) (read : List Node) : Scan (List Node) := do
  let isAssignable := (kindOf? read).any fun kind => assignableKinds.contains kind
  if !isAssignable then return read
  let text ← look
  let isPlain := match text with
    | '=' :: next :: _ => next != '=' && next != '>'
    | _ => false
  if isPlain then
    let sign ← mark "="
    let value ← g.parse (.expression tail)
    return group .assignmentExpression (inRole .left read ++ sign ++ inRole .right value)
  else
    match augmentedMarks.find? fun lexeme => lexeme.toList.isPrefixOf text with
    | some lexeme =>
      let sign ← mark lexeme
      let value ← g.parse (.expression tail)
      return group .augmentedAssignmentExpression
        (inRole .left read ++ inRole .operator sign ++ inRole .right value)
    | none => return read

/-- An operand that a pattern may stand for, on the left of an assignment. -/
def assignable (g : Grammar) (tail : Tail) : Scan (List Node) :=
  (do g.optionalAssignment tail (← g.chain tail)) <|> (do
    -- An object or array that is no expression may still be a pattern on the left of an assignment.
    guardThat (← nextIn "[\x7b")
    let left ← g.parse .pattern
    guardThat ((← nextIs "=") && !(← nextIs "=="))
    g.optionalAssignment tail left)

/-- An operator in front of its operand. -/
def unary (g : Grammar) (kind : Kind) (tail : Tail) (sign : Scan (List Node)) :
    Scan (List Node) := do
  let operator ← sign
  return group kind (inRole .operator operator ++ (← g.parse (.operand tail)))

/-- Casts behind what was read. -/
def casts (g : Grammar) (tail : Tail) (read : List Node) : Scan (Option (List Node)) := do
  if ← endsHere tail then return none
  match ← nextWord? with
  | some "as" =>
    let sign ← word "as"
    return some (group .asExpression (read ++ sign ++ (← g.parse (.type tail))))
  | some "satisfies" =>
    let sign ← word "satisfies"
    return some (group .satisfiesExpression (read ++ sign ++ (← g.parse (.type tail))))
  | _ => return none

/-- What is waited for. A cast behind it belongs to it. -/
def awaitOperand (g : Grammar) (tail : Tail) : Scan (List Node) := do
  let sign ← word "await"
  let awaited ← g.parse (.operand tail)
  -- Casts bind tighter here than behind other operands.
  return group .awaitExpression (sign ++ (← extend g.limit (g.casts tail) awaited))

/-- What a generator hands out. -/
def yieldOperand (g : Grammar) (tail : Tail) : Scan (List Node) := do
  let sign ← word "yield"
  if ← nextIs "*" then
    let star ← mark "*"
    return group .yieldExpression (sign ++ star ++ (← g.parse (.expression tail)))
  else
    let isBare := (← look).head?.all fun c => ")],;:\x7d".toList.contains c
    if isBare || (← endsHere tail) then return group .yieldExpression sign
    else return group .yieldExpression (sign ++ (← g.parse (.expression tail)))

/-- An operand that starts with an angle bracket: a generic arrow function, a cast or an element. -/
def angleOperand (g : Grammar) (tail : Tail) : Scan (List Node) :=
  -- A generic arrow function starts like a cast, and like an element.
  g.arrowFunction tail <|>
    match g.dialect with
    | .casts => do
      let target ← g.typeArguments
      return group .typeAssertion (target ++ (← g.parse (.operand tail)))
    | .markup => do extend g.limit (g.postfixStep tail) (← g.parse .element)

/-- An expression that binds tighter than every operator between two operands. -/
def operand (g : Grammar) (tail : Tail) : Scan (List Node) := do
  let text ← look
  match text with
  | '+' :: '+' :: _ => unary g .updateExpression tail (mark "++")
  | '-' :: '-' :: _ => unary g .updateExpression tail (mark "--")
  | '+' :: _ => unary g .unaryExpression tail (mark "+")
  | '-' :: _ => unary g .unaryExpression tail (mark "-")
  | '!' :: _ => unary g .unaryExpression tail (mark "!")
  | '~' :: _ => unary g .unaryExpression tail (mark "~")
  | '<' :: _ => g.angleOperand tail
  | _ =>
    match word? text with
    | some "typeof" => unary g .unaryExpression tail (word "typeof")
    | some "void" => unary g .unaryExpression tail (word "void")
    | some "delete" => unary g .unaryExpression tail (word "delete")
    | some "await" => g.awaitOperand tail
    | some "yield" => g.yieldOperand tail
    | _ => g.assignable tail

/-! ### Operators between operands -/

/-- An operator between two operands: how it is written and how tight it binds. -/
structure Operator where
  lexeme : String
  level : Nat

/-- The operators between two operands that are marks, longer ones first. -/
def markOperators : List Operator :=
  [⟨">>>", 9⟩, ⟨"===", 7⟩, ⟨"!==", 7⟩, ⟨"**", 12⟩, ⟨"<<", 9⟩, ⟨">>", 9⟩, ⟨"<=", 8⟩, ⟨">=", 8⟩,
    ⟨"==", 7⟩, ⟨"!=", 7⟩, ⟨"&&", 3⟩, ⟨"||", 2⟩, ⟨"??", 1⟩, ⟨"*", 11⟩, ⟨"/", 11⟩, ⟨"%", 11⟩,
    ⟨"+", 10⟩, ⟨"-", 10⟩, ⟨"<", 8⟩, ⟨">", 8⟩, ⟨"&", 6⟩, ⟨"^", 5⟩, ⟨"|", 4⟩]

/-- The operators between two operands that are words. -/
def wordOperators : List Operator :=
  [⟨"instanceof", 8⟩, ⟨"in", 8⟩]

/-- The operator between two operands that a text starts with. The marks that assign are none. -/
def operator? (text : List Char) : Option Operator :=
  if augmentedMarks.any fun lexeme => lexeme.toList.isPrefixOf text then none
  else
    -- The list has the longer marks first, so none is cut short.
    match markOperators.find? fun operator => operator.lexeme.toList.isPrefixOf text with
    | some operator => some operator
    | none => wordOperators.find? fun operator => word? text == some operator.lexeme

/-- One more operator of at least some level, with its right side. Of operators of one level the
first one binds its operands first, save powers, where the last one does. -/
def binaryStep (g : Grammar) (level : Nat) (tail : Tail) (read : List Node) :
    Scan (Option (List Node)) := do
  if ← endsHere tail then return none
  let text ← look
  match operator? text with
  | some operator =>
    if level ≤ operator.level then
      let sign ← token .token (exactly operator.lexeme.toList)
      -- The right side takes operators of the next level, or of the same one for powers.
      let next := if operator.lexeme == "**" then operator.level else operator.level + 1
      let right ← g.parse (.binary next tail)
      return some <| group .binaryExpression
        (inRole .left read ++ inRole .operator sign ++ inRole .right right)
    else return none
  | none => if level = 0 then g.casts tail read else return none

/-- Operands with operators of at least some level between them. -/
def binary (g : Grammar) (level : Nat) (tail : Tail) : Scan (List Node) := do
  extend g.limit (g.binaryStep level tail) (← g.operand tail)

/-- Whether the question mark of a conditional expression is at the front of a text. -/
def startsCondition : List Char → Bool
  | '?' :: rest =>
    -- A question mark in front of a colon, a comma or a parenthesis marks something optional.
    let next := (rest.dropWhile isLineBlank).head?
    rest.head? != some '?' && (rest.head? != some '.' || (rest.drop 1).head?.any Char.isDigit) &&
      !next.any fun c => c == ':' || c == ')' || c == ','
  | _ => false

/-- An expression without a comma at its top. -/
def expression (g : Grammar) (tail : Tail) : Scan (List Node) := do
  let condition ← g.binary 0 tail
  if startsCondition (← look) && !(← endsHere tail) then
    let question ← mark "?"
    let consequence ← g.parse (.expression .beforeColon)
    let colon ← mark ":"
    let alternative ← g.parse (.expression tail)
    return group .ternaryExpression (condition ++ question ++ consequence ++ colon ++ alternative)
  else return condition

end Accord.Script.Grammar
