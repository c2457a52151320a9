import Accord.Script.Grammar.Basic

/-!
# `Accord.Script.Grammar.Types`: type expressions

From the loosest to the tightest: function types, conditional types, unions, intersections, and
types with array marks and look-ups behind them. What follows the arrow of a function type, or
`readonly`, reaches as far as it can.

The member of an imported module is a type of its own. No array mark, no argument and no
parenthesis goes with it, save one pair of parentheses right behind the colon of an annotation.
-/

set_option autoImplicit false

namespace Accord.Script.Grammar

open Scan

/-- The names of the types that the language defines. -/
def predefinedTypes : List String :=
  ["any", "number", "boolean", "string", "symbol", "void", "unknown", "never", "object"]

/-- The words that are types by their value. -/
def literalWords : List (String × Kind) :=
  [("true", .trueLiteral), ("false", .falseLiteral), ("null", .nullLiteral),
    ("undefined", .undefinedLiteral)]

/-- The words that are no names where a type is expected. -/
def typeWords : List String :=
  ["typeof", "keyof", "readonly", "unique", "infer", "new", "abstract", "import", "const"]

/-- A type argument list with at least one type. -/
def typeArguments (g : Grammar) : Scan (List Node) := do
  let nodes ← between "<" ">" do
    guardThat !(← nextIs ">")
    listed g.limit ">" (g.parse (.type .inside))
  return group .typeArguments nodes

/-- A type annotation. -/
def typeAscription (g : Grammar) (tail : Tail) : Scan (List Node) := do
  let colon ← mark ":"
  let annotated ← g.parse (.type tail)
  return group .typeAscription (colon ++ annotated)

/-- A type parameter with its bound and its default. -/
def typeParameter (g : Grammar) : Scan (List Node) := do
  let constant ← optionalWord "const"
  let found ← name .typeIdentifier
  let bound ← (do
    if ← nextWordIs "extends" then
      let limit ← word "extends"
      return group .constraint (limit ++ (← g.parse (.type .inside)))
    else if ← nextIs ":" then
      let limit ← mark ":"
      return group .constraint (limit ++ (← g.parse (.type .inside)))
    else return [])
  let default ← optionalFrom "=" do
    let sign ← mark "="
    return group .defaultType (sign ++ (← g.parse (.type .inside)))
  return group .typeParameter (constant ++ inRole .name found ++ bound ++ inRole .value default)

/-- A type parameter list, if one comes next. -/
def optionalTypeParameters (g : Grammar) : Scan (List Node) := do
  if ← nextIs "<" then
    let nodes ← between "<" ">" do
      guardThat !(← nextIs ">")
      listed g.limit ">" g.typeParameter
    return group .typeParameters nodes
  else return []

/-- A name with dots in front of its last part; `module` is what was read of it. -/
def nestedName (g : Grammar) (kind last : Kind) (module : List Node) : Scan (List Node) :=
  extend g.limit (fun read => do
    let text ← look
    match text with
    | '.' :: more =>
      let dot ← mark "."
      let isLast := (ahead (afterName (ahead more))).head? != some '.'
      let part ← name (if isLast then last else .identifier)
      return some (group (if isLast then kind else .nestedIdentifier) (read ++ dot ++ part))
    | _ => return none) module

/-- A named type, with its arguments if it has any. -/
def namedType (g : Grammar) : Scan (List Node) := do
  let text ← look
  let isNested := (ahead (afterName text)).head? == some '.'
  let found ← name (if isNested then .identifier else .typeIdentifier)
  let named ← g.nestedName .nestedTypeIdentifier .typeIdentifier found
  if ← nextIs "<" then return group .genericType (inRole .name named ++ (← g.typeArguments))
  else return named

/-- The arguments of a call. -/
def arguments (g : Grammar) : Scan (List Node) := do
  let nodes ← between "(" ")" <| listedWithHoles g.limit ")" do
    if ← nextIs "..." then
      let dots ← mark "..."
      return group .spreadElement (dots ++ (← g.parse (.expression .inside)))
    else g.parse (.expression .inside)
  return group .arguments nodes

/-- The call that imports a module. -/
def importCall (g : Grammar) : Scan (List Node) := do
  let callee ← token .importWord (exactWord "import")
  let given ← g.arguments
  return group .callExpression (inRole .function callee ++ inRole .arguments given)

/-- A member of an imported module as a type. -/
def importedType (g : Grammar) : Scan (List Node) := do
  let module ← g.importCall
  extend g.limit (fun read => do
    if ← nextIs "." then
      let dot ← mark "."
      return some (group .memberExpression (read ++ dot ++ (← name .propertyIdentifier)))
    else return none) module

/-- What `typeof` may ask the type of. -/
def queried (g : Grammar) : Scan (List Node) := do
  let first ← (do
    match ← nextWord? with
    | some "import" => g.importCall
    | some "this" => name .this
    | _ => name .identifier)
  extend g.limit (fun read => do
    let text ← look
    match text with
    | '.' :: _ =>
      let dot ← mark "."
      let isPrivate := (← look).head? == some '#'
      let property ← if isPrivate then token .privatePropertyIdentifier privateName?
        else name .propertyIdentifier
      return some (group .memberExpression (read ++ dot ++ property))
    | '[' :: more =>
      let index := ahead more
      let isIndex := index.head?.any fun c => c == '"' || c == '\'' || c.isDigit
      if isIndex then
        let nodes ← between "[" "]" (token .string string? <|> token .number number?)
        return some (group .subscriptExpression (read ++ nodes))
      else return none
    | '(' :: _ =>
      return some
        (group .callExpression (inRole .function read ++ inRole .arguments (← g.arguments)))
    | '<' :: _ => return some (group .instantiationExpression (read ++ (← g.typeArguments)))
    | _ => return none) first

/-- A part of a template type. -/
def templateTypePart (g : Grammar) : Scan (Option (List Node)) := do
  match ← get with
  | '`' :: _ => return none
  | '$' :: '\x7b' :: _ =>
    let opening ← tokenHere .token (exactly "$\x7b".toList)
    let inside ← g.parse (.type .inside)
    return some (group .templateType (opening ++ inside ++ (← mark "\x7d")))
  | _ => return some (← tokenHere .stringFragment templateChunk?)

/-- A template type. -/
def templateType (g : Grammar) : Scan (List Node) := do
  let opening ← mark "`"
  let parts ← collect g.limit g.templateTypePart []
  return group .templateLiteralType
    (opening ++ parts ++ (← tokenHere .token (exactly ['`'])))

/-- A member of a tuple. -/
def tupleMember (g : Grammar) : Scan (List Node) := do
  let text ← look
  let dots := "...".toList
  if dots.isPrefixOf text then
    let afterDots := ahead (text.drop dots.length)
    let isNamed := (name? afterDots).isSome && (ahead (afterName afterDots)).head? == some ':'
    let opening ← mark "..."
    if isNamed then
      let pattern := group .restPattern (opening ++ (← name .identifier))
      return group .requiredParameter
        (inRole .name pattern ++ inRole .type (← g.typeAscription .inside))
    else return group .restType (opening ++ (← g.parse (.type .inside)))
  else
    let afterWord := ahead (afterName text)
    let isNamed := (name? text).isSome
    if isNamed && afterWord.head? == some ':' then
      let found ← name .identifier
      return group .requiredParameter
        (inRole .name found ++ inRole .type (← g.typeAscription .inside))
    else if isNamed && afterWord.head? == some '?' &&
        (ahead (afterWord.drop 1)).head? == some ':' then
      let found ← name .identifier
      let sign ← mark "?"
      return group .optionalParameter
        (inRole .name found ++ sign ++ inRole .type (← g.typeAscription .inside))
    else
      let member ← g.parse (.type .inside)
      if ← nextIs "?" then return group .optionalType (member ++ (← mark "?")) else return member

/-- A type whose name starts with a word. -/
def wordType (g : Grammar) (tail : Tail) : Scan (List Node) := do
  let some found ← nextWord? | failure
  match literalWords.lookup found with
  | some kind => return group .literalType (← name kind)
  | none =>
    if predefinedTypes.contains found then name .predefinedType
    else if found == "this" then name .thisType
    else if found == "const" then word "const"
    else if found == "typeof" then
      let query ← word "typeof"
      return group .typeQuery (query ++ (← g.queried))
    else if found == "keyof" then
      let index ← word "keyof"
      return group .indexTypeQuery (index ++ (← g.parse (.primaryType tail)))
    else if found == "unique" then
      let unique ← word "unique"
      return group .predefinedType (unique ++ (← word "symbol"))
    else
      guardThat !(typeWords.contains found)
      g.namedType

/-- A type that starts with its own mark or word. -/
def simpleType (g : Grammar) (tail : Tail) : Scan (List Node) := do
  match ← look with
  -- The member of an imported module has no parentheses around it in this place.
  | '(' :: _ =>
    return group .parenthesizedType (← between "(" ")" do
      guardThat !(← nextWordIs "import")
      g.parse (.type .inside))
  | '\x7b' :: _ => g.parse .objectType
  | '[' :: _ => return group .tupleType (← between "[" "]" (listed g.limit "]" g.tupleMember))
  | '`' :: _ => g.templateType
  | '?' :: _ =>
    let sign ← mark "?"
    return group .flowMaybeType (sign ++ (← g.parse (.primaryType tail)))
  | '*' :: _ => token .existentialType (exactly ['*'])
  | '-' :: _ =>
    let sign ← mark "-"
    return group .literalType (group .unaryExpression (sign ++ (← token .number number?)))
  | '+' :: _ =>
    let sign ← mark "+"
    return group .literalType (group .unaryExpression (sign ++ (← token .number number?)))
  | c :: _ =>
    if c = '"' || c = '\'' then return group .literalType (← token .string string?)
    else if c.isDigit || c = '.' then return group .literalType (← token .number number?)
    else g.wordType tail
  | [] => failure

/-- A type without operators between types: array marks and look-ups may follow its start. -/
def primaryType (g : Grammar) (tail : Tail) : Scan (List Node) := do
  let first ← g.simpleType tail
  extend g.limit (fun read => do
    match ← look with
    | '[' :: more =>
      -- On the next line a bracket may start a statement of its own.
      if ← endsHere tail then return none
      let opening ← mark "["
      if (ahead more).head? == some ']' then
        return some (group .arrayType (read ++ opening ++ (← mark "]")))
      else
        let index ← g.parse (.type .inside)
        return some (group .lookupType (read ++ opening ++ index ++ (← mark "]")))
    | _ => return none) first

/-! ### What a function gives back -/

/-- A claim about the type of a name. -/
def typePredicate (g : Grammar) (tail : Tail) : Scan (List Node) := do
  let subject ← if ← nextWordIs "this" then name .this else name .identifier
  let sign ← word "is"
  let claimed ← g.parse (.type tail)
  return group .typePredicate (inRole .name subject ++ sign ++ inRole .type claimed)

/-- Whether a claim about the type of a name comes next. -/
def nextIsPredicate : Scan Bool := do
  let text ← look
  return (name? text).isSome && word? (ahead (afterName text)) == some "is"

/-- An assertion about a name. -/
def assertion (g : Grammar) (tail : Tail) : Scan (List Node) := do
  let sign ← word "asserts"
  let claim ← (do
    if ← nextIsPredicate then g.typePredicate tail
    else if ← nextWordIs "this" then name .this
    else name .identifier)
  return group .asserts (sign ++ claim)

/-- What a function type gives back: a type, an assertion or a claim. -/
def returned (g : Grammar) (tail : Tail) : Scan (List Node) := do
  if ← nextWordIs "asserts" then g.assertion tail
  else if ← nextIsPredicate then g.typePredicate tail
  else g.parse (.type tail)

/-- The annotation behind the parameters of a function, if there is one. -/
def optionalReturn (g : Grammar) (tail : Tail) : Scan (List Node) := do
  if ← nextIs ":" then
    let colon ← mark ":"
    if ← nextWordIs "asserts" then return group .assertsAscription (colon ++ (← g.assertion tail))
    else if ← nextIsPredicate then
      return group .typePredicateAscription (colon ++ (← g.typePredicate tail))
    else return group .typeAscription (colon ++ (← g.parse (.type tail)))
  else return []

/-- The parameters of a function with what stands around them. -/
def signature (g : Grammar) (tail : Tail) : Scan (List Node) := do
  let generic ← g.optionalTypeParameters
  let given ← g.parse .parameters
  let result ← g.optionalReturn tail
  return generic ++ inRole .parameters given ++ inRole .returnType result

/-- A function type. -/
def functionType (g : Grammar) (tail : Tail) : Scan (List Node) := do
  let generic ← g.optionalTypeParameters
  let given ← g.parse .parameters
  let arrow ← mark "=>"
  let result ← g.returned tail
  return group .functionType
    (generic ++ inRole .parameters given ++ arrow ++ inRole .returnType result)

/-- The type of a constructor. -/
def constructorType (g : Grammar) (tail : Tail) : Scan (List Node) := do
  let abstract ← optionalWord "abstract"
  let create ← word "new"
  let generic ← g.optionalTypeParameters
  let given ← g.parse .parameters
  let arrow ← mark "=>"
  let result ← g.parse (.type tail)
  return group .constructorType
    (abstract ++ create ++ generic ++ inRole .parameters given ++ arrow ++ inRole .type result)

/-- Whether a function type comes next. -/
def nextIsFunctionType : Scan Bool := do
  let text ← look
  match text with
  | '<' :: _ => return true
  -- Only the arrow behind the closing parenthesis tells a list of parameters from a type in
  -- parentheses.
  | '(' :: _ =>
    match afterParenthesis text with
    | some rest => return "=>".toList.isPrefixOf (ahead rest)
    | none => return false
  | _ => return false

/-! ### Operators between types -/

/-- A function type. In front of the arrow of a function, parentheses may be a type of their own and
that arrow the one behind them. -/
def functionOrParenthesized (g : Grammar) (tail : Tail) : Scan (List Node) :=
  match tail with
  | .beforeArrow =>
    (do
      let function ← g.functionType tail
      -- The arrow that was read has to be one of its own, with the one of the function still to
      -- come.
      guardThat (← nextIs "=>")
      return function) <|> g.parse (.primaryType tail)
  | _ => g.functionType tail

/-- A type that operators between types stand around. -/
def typeOperand (g : Grammar) (tail : Tail) : Scan (List Node) := do
  if ← nextIsFunctionType then g.functionOrParenthesized tail
  else
    match ← nextWord? with
    | some "new" | some "abstract" => g.constructorType tail
    | some "readonly" =>
      let sign ← word "readonly"
      return group .readonlyType (sign ++ (← g.parse (.type tail)))
    | some "infer" =>
      let sign ← word "infer"
      let found ← name .typeIdentifier
      if (← nextWordIs "extends") && !(← endsHere tail) then
        let limit ← word "extends"
        return group .inferType (sign ++ found ++ limit ++ (← g.parse (.primaryType tail)))
      else return group .inferType (sign ++ found)
    | some "import" => g.importedType
    | _ => g.parse (.primaryType tail)

/-- Whether an operator between types comes next: the mark alone, and not as part of a longer
one. -/
def nextIsTypeOperator (operator : Char) : Scan Bool := do
  match ← look with
  | c :: next :: _ => return c == operator && next != operator && next != '='
  | _ => return false

/-- Types with an operator between them. The operator may stand in front of the first one too. -/
def joinedTypes (g : Grammar) (operator : Char) (kind : Kind) (part : Scan (List Node)) :
    Scan (List Node) := do
  let sign : Scan (List Node) := token .token (exactly [operator])
  let first ← (do
    if ← nextIsTypeOperator operator then
      let leading ← sign
      return group kind (leading ++ (← part))
    else part)
  extend g.limit (fun read => do
    if ← nextIsTypeOperator operator then
      let between ← sign
      return some (group kind (read ++ between ++ (← part)))
    else return none) first

/-- A union of intersections of types. -/
def unionType (g : Grammar) (tail : Tail) : Scan (List Node) :=
  g.joinedTypes '|' .unionType (g.joinedTypes '&' .intersectionType (g.typeOperand tail))

/-- A type. -/
def typeExpression (g : Grammar) (tail : Tail) : Scan (List Node) := do
  let left ← g.unionType tail
  if (← nextWordIs "extends") && !(← endsHere tail) then
    let sign ← word "extends"
    let right ← g.unionType .inside
    let question ← mark "?"
    -- The colon of the condition is not the start of an annotation.
    let consequence ← g.parse (.type .beforeColon)
    let colon ← mark ":"
    let alternative ← g.parse (.type tail)
    return group .conditionalType
      (inRole .left left ++ sign ++ inRole .right right ++ question ++ consequence ++ colon ++
        alternative)
  else return left

/-- A type annotation behind a name. One pair of parentheses may stand around the member of an
imported module here. -/
def ascription (g : Grammar) (tail : Tail) : Scan (List Node) := do
  let text ← look
  match text with
  | ':' :: more =>
    match ahead more with
    -- The parentheses are read here because a type in parentheses refuses what is imported.
    | '(' :: inside =>
      if word? (ahead inside) == some "import" then
        let colon ← mark ":"
        let nodes ← between "(" ")" g.importedType
        return group .typeAscription (colon ++ group .parenthesizedType nodes)
      else g.typeAscription tail
    | _ => g.typeAscription tail
  | _ => failure

/-- A type annotation behind a name, if one comes next. -/
def optionalAscription (g : Grammar) (tail : Tail) : Scan (List Node) :=
  optionalFrom ":" (g.ascription tail)

end Accord.Script.Grammar
