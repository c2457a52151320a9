import Accord.Script.Grammar.Types

/-!
# `Accord.Script.Grammar.Members`: patterns, parameters and members of types

The names of properties are the same in objects, types, patterns and classes: a name, a private
name, a string, a number or an expression between brackets.

A modifier in front of a member is a word like any other, so it may also be the name of the
member. It is a modifier if the start of another name follows on the same line.
-/

set_option autoImplicit false

namespace Accord.Script.Grammar

open Scan

/-- The name of a property. -/
def propertyName (g : Grammar) : Scan (List Node) := do
  match ← look with
  | '[' :: _ =>
    return group .computedPropertyName (← between "[" "]" (g.parse (.expression .inside)))
  | '#' :: _ => token .privatePropertyIdentifier privateName?
  | c :: _ =>
    if c = '"' || c = '\'' then token .string string?
    else if c.isDigit || c = '.' then token .number number?
    else name .propertyIdentifier
  | [] => failure

/-- Whether a text starts with the name of a property. -/
def startsPropertyName (text : List Char) : Bool :=
  (name? text).isSome || text.head?.any fun c => "\"'[#".toList.contains c || c.isDigit

/-! ### Modifiers -/

/-- Whether the next word is followed by more of the member that it belongs to. -/
def nextIsModifier (word : String) (tail : Tail) : Scan Bool := do
  let text ← look
  if word? text == some word then
    let rest := afterName text
    let next := ahead rest
    -- On the next line another member starts, and the word is a member of its own.
    return (startsPropertyName next || next.head?.any fun c => c == '*') && !ends tail rest
  else return false

/-- Reads a modifier, if it comes next. -/
def optionalModifier (lexeme : String) (tail : Tail) : Scan (List Node) := do
  if ← nextIsModifier lexeme tail then word lexeme else return []

/-- Reads the first of some modifiers that comes next. -/
def oneOfModifiers (tail : Tail) : List String → Scan (List Node)
  | [] => return []
  | lexeme :: rest => do
    if ← nextIsModifier lexeme tail then word lexeme else oneOfModifiers tail rest

/-- Reads a word that says who may see a member, if one comes next. -/
def optionalAccessibility (tail : Tail) : Scan (List Node) := do
  let found ← oneOfModifiers tail ["public", "private", "protected"]
  if found.isEmpty then return [] else return group .accessibilityModifier found

/-- Reads the word for a member that replaces an inherited one, if it comes next. -/
def optionalOverride (tail : Tail) : Scan (List Node) := do
  let found ← optionalModifier "override" tail
  if found.isEmpty then return [] else return group .overrideModifier found

/-- Reads the words and the mark for accessors and generators, if one comes next. -/
def optionalMethodMark (tail : Tail) : Scan (List Node) := do
  if ← nextIs "*" then mark "*" else oneOfModifiers tail ["get", "set"]

/-! ### Patterns -/

/-- A default value behind a pattern, if one comes next. -/
def optionalInitializer (g : Grammar) (tail : Tail) : Scan (List Node) := do
  -- A longer mark that starts with the same character is none of a value.
  if (← nextIs "=") && !(← nextIs "==") && !(← nextIs "=>") then
    let sign ← mark "="
    return sign ++ inRole .value (← g.parse (.expression tail))
  else return []

/-- A pattern with a default value, if it has one. -/
def patternWithDefault (g : Grammar) (kind : Kind) (pattern : List Node) : Scan (List Node) := do
  let default ← optionalInitializer g .inside
  if default.isEmpty then return pattern
  else return group kind (inRole .left pattern ++ default)

/-- A rest pattern. -/
def restPattern (g : Grammar) : Scan (List Node) := do
  let dots ← mark "..."
  return group .restPattern (dots ++ (← g.parse .pattern))

/-- A part of an object pattern. -/
def objectPatternPart (g : Grammar) : Scan (List Node) := do
  let text ← look
  if "...".toList.isPrefixOf text then g.restPattern
  else
    -- Without a colon the name of the member is that of the variable.
    let isShorthand := (name? text).isSome && (ahead (afterName text)).head? != some ':'
    if isShorthand then
      let found ← name .shorthandPropertyIdentifierPattern
      patternWithDefault g .objectAssignmentPattern found
    else
      let key ← g.propertyName
      let colon ← mark ":"
      let found ← g.parse .pattern
      let value ← patternWithDefault g .assignmentPattern found
      return group .pairPattern (inRole .key key ++ colon ++ inRole .value value)

/-- A pattern: a name, or names taken from an object or an array. -/
def pattern (g : Grammar) : Scan (List Node) := do
  match ← look with
  | '\x7b' :: _ =>
    return group .objectPattern
      (← between "\x7b" "\x7d" (listedWithHoles g.limit "\x7d" (objectPatternPart g)))
  | '[' :: _ =>
    return group .arrayPattern (← between "[" "]" <| listedWithHoles g.limit "]" do
      patternWithDefault g .assignmentPattern (← g.parse .pattern))
  | '.' :: _ => g.restPattern
  | _ => name .identifier

/-! ### Parameters -/

/-- The decorators in front of a declaration, a member or a parameter. -/
def decorators (g : Grammar) : Scan (List Node) :=
  collect g.limit (do
    if ← nextIs "@" then
      let sign ← mark "@"
      return some (group .decorator (sign ++ (← g.parse (.operand .inside))))
    else return none) []

/-- Whether another parameter name follows the next word. -/
def nextIsParameterModifier (lexeme : String) : Scan Bool := do
  let text ← look
  let next := ahead (afterName text)
  return word? text == some lexeme &&
    ((name? next).isSome || next.head?.any fun c => "[\x7b.".toList.contains c)

/-- The first of some words in front of a parameter that comes next, as a node of some kind. -/
def parameterModifier (kind : Kind) : List String → Scan (List Node)
  | [] => return []
  | lexeme :: rest => do
    if ← nextIsParameterModifier lexeme then
      let found ← word lexeme
      if kind = .token then return found else return group kind found
    else parameterModifier kind rest

/-- A parameter of a function. -/
def parameter (g : Grammar) : Scan (List Node) := do
  let decorated ← g.decorators
  let access ← parameterModifier .accessibilityModifier ["public", "private", "protected"]
  let override ← parameterModifier .overrideModifier ["override"]
  let fixed ← parameterModifier .token ["readonly"]
  let found ← if ← nextWordIs "this" then name .this else g.parse .pattern
  let question ← optionalMark "?"
  let declared ← g.optionalAscription .inside
  let value ← optionalInitializer g .inside
  let kind := if question.isEmpty then .requiredParameter else .optionalParameter
  return group kind
    (decorated ++ access ++ override ++ fixed ++ inRole .pattern found ++ question ++
      inRole .type declared ++ value)

/-- The parameters of a function. -/
def parameters (g : Grammar) : Scan (List Node) := do
  return group .formalParameters (← between "(" ")" (listed g.limit ")" (parameter g)))

/-! ### Members of object types -/

/-- The annotation of an index: it may add or take away that the members are optional. -/
def indexAscription (g : Grammar) : Scan (List Node) := do
  if ← nextIs "-?:" then
    let sign ← mark "-?:"
    return group .omittingTypeAscription (sign ++ (← g.parse (.type .declaration)))
  else if ← nextIs "+?:" then
    let sign ← mark "+?:"
    return group .addingTypeAscription (sign ++ (← g.parse (.type .declaration)))
  else if ← nextIs "?:" then
    let sign ← mark "?:"
    return group .optingTypeAscription (sign ++ (← g.parse (.type .declaration)))
  else g.ascription .declaration

/-- An index of an object type, or the clause that lists its keys. -/
def indexSignature (g : Grammar) : Scan (List Node) := do
  let sign ← (do if ← nextIs "-" then mark "-" else optionalMark "+")
  let fixed ← if sign.isEmpty then optionalWord "readonly" else word "readonly"
  let keys ← between "[" "]" do
    let text ← look
    -- The word behind the name tells a list of keys from an index.
    if word? (ahead (afterName text)) == some "in" then
      let found ← name .typeIdentifier
      let inside ← word "in"
      let listed ← g.parse (.type .inside)
      let renamed ← (do
        if ← nextWordIs "as" then
          let sign ← word "as"
          return sign ++ (← g.parse (.type .inside))
        else return [])
      return group .mappedTypeClause (inRole .name found ++ inside ++ listed ++ renamed)
    else
      let found ← name .identifier
      let colon ← mark ":"
      return inRole .name found ++ colon ++ (← g.parse (.type .inside))
  let declared ← indexAscription g
  return group .indexSignature (sign ++ fixed ++ keys ++ inRole .type declared)

/-- Whether the bracket at the front of a text opens an index. -/
def startsIndex : List Char → Bool
  | '[' :: rest =>
    let inside := ahead rest
    let next := ahead (afterName inside)
    (name? inside).isSome && (next.head? == some ':' || word? next == some "in")
  | _ => false

/-- Whether an index of an object type comes next. -/
def nextIsIndexSignature : Scan Bool := do
  let text ← look
  let unsigned := if text.head?.any fun c => c == '-' || c == '+' then ahead (text.drop 1) else text
  let plain := if word? unsigned == some "readonly" then ahead (afterName unsigned) else unsigned
  return startsIndex plain

/-- A property or method of an object type. -/
def typeMember (g : Grammar) : Scan (List Node) := do
  let access ← optionalAccessibility .declaration
  let static ← optionalModifier "static" .declaration
  let override ← optionalOverride .declaration
  let fixed ← optionalModifier "readonly" .declaration
  let async ← optionalModifier "async" .declaration
  let method ← optionalMethodMark .declaration
  -- The word is no name of a member of an object type.
  guardThat !(← nextWordIs "abstract")
  let key ← g.propertyName
  let question ← optionalMark "?"
  let start :=
    access ++ static ++ override ++ fixed ++ async ++ method ++ inRole .name key ++ question
  if (← nextIs "(") && !(← endsHere .declaration) || (← nextIs "<") then
    return group .methodSignature (start ++ (← g.signature .declaration))
  else
    -- These words are for methods alone.
    guardThat (async.isEmpty && method.isEmpty)
    return group .propertySignature (start ++ inRole .type (← g.optionalAscription .declaration))

/-- A signature of an object type for calling it as a constructor. -/
def constructSignature (g : Grammar) : Scan (List Node) := do
  let abstract ← optionalWord "abstract"
  let create ← word "new"
  let generic ← g.optionalTypeParameters
  let given ← g.parse .parameters
  let result ← g.optionalAscription .declaration
  return group .constructSignature
    (abstract ++ create ++ generic ++ inRole .parameters given ++ inRole .type result)

/-- Whether a constructor signature comes next. -/
def nextIsConstructSignature : Scan Bool := do
  let text ← look
  let isAbstract := word? text == some "abstract"
  let start := if isAbstract then ahead (afterName text) else text
  let next := (ahead (afterName start)).head?
  -- Otherwise the word is the name of a member.
  return word? start == some "new" && (isAbstract || next == some '(' || next == some '<') &&
    (isAbstract || !ends .declaration (afterName start))

/-- A member of an object type. -/
def objectTypeMember (g : Grammar) : Scan (List Node) := do
  if ← nextIsIndexSignature then indexSignature g
  else if ← nextIsConstructSignature then constructSignature g
  else if ← nextIn "(<" then return group .callSignature (← g.signature .declaration)
  else if (← nextWordIs "export") && !(← nextIsPlainMember) then g.parse .statement
  else typeMember g
where
  /-- Whether the next word is the name of a member. -/
  nextIsPlainMember : Scan Bool := do
    let next := ahead (afterName (← look))
    return next.isEmpty || next.head?.any fun c => ":?(<,;\x7d".toList.contains c

/-- What stands between two members of an object type: a comma, a semicolon, or the end of a
line. -/
def memberSeparator : Scan (List Node) := do
  if ← nextIs "," then mark "," else semicolon .declaration

/-- An object type. -/
def objectType (g : Grammar) : Scan (List Node) := do
  let opening ← mark "\x7b"
  if ← nextIs "\x7d" then return group .objectType (opening ++ (← mark "\x7d"))
  else
    let leading ← if ← nextIn ",;" then memberSeparator else pure []
    let first ← objectTypeMember g
    let members ← collect g.limit (do
      if ← nextIs "\x7d" then return none
      let between ← memberSeparator
      -- The last member may have a separator too.
      if ← nextIs "\x7d" then return some between
      return some (between ++ (← objectTypeMember g))) []
    return group .objectType (opening ++ leading ++ first ++ members ++ (← mark "\x7d"))

end Accord.Script.Grammar
