import Accord.Script.Layout

/-!
# `Accord.Script.Grammar.Basic`: rules that read nodes off a text

A rule is a `Scan`: it reads nodes off the front of a text or declines. What it reads is a list
of nodes in the order of the text. A comment in front of a token is a node of that list, and
`group` makes a node of a list but leaves the comments at its front outside; so a comment lies
in the smallest node that has tokens on both sides of it.

The rules of the language refer to each other. A `Goal` names what such a reference asks for,
and a rule reaches the others through `Grammar.parse` only.
-/

set_option autoImplicit false

namespace Accord.Script

/-- Reads something off the front of a text, or declines. -/
abbrev Scan := StateT (List Char) Option

/-- The two languages of source units. -/
inductive Dialect where
  /-- With casts in angle brackets. -/
  | casts
  /-- With markup instead of such casts. -/
  | markup
  deriving DecidableEq, Repr

/-- What a rule asks of another one. -/
inductive Goal where
  | statement
  /-- A declaration behind a word that announces it. -/
  | declaration
  | block
  /-- An expression without a comma at its top. -/
  | expression (tail : Tail)
  /-- An expression made with operators of at least some level. -/
  | binary (level : Nat) (tail : Tail)
  /-- An expression that binds tighter than every operator between two operands. -/
  | operand (tail : Tail)
  | type (tail : Tail)
  /-- A type without operators between types. -/
  | primaryType (tail : Tail)
  | objectType
  | pattern
  | parameters
  | element

/-- A language with its rules tied together. -/
structure Grammar where
  dialect : Dialect
  /-- A bound on how often a rule repeats a part. -/
  limit : Nat
  /-- The rule for a goal. -/
  parse : Goal → Scan (List Node)

/-! ### Nodes -/

/-- Whether the node is a comment. -/
def Node.isComment (node : Node) : Bool :=
  node.kind = .comment

/-- Makes a node of the given ones. The comments at their front stay outside. -/
def group (kind : Kind) (nodes : List Node) : List Node :=
  let (comments, inside) := nodes.span Node.isComment
  comments ++ [Node.branch kind inside]

/-- Gives the node that was read its role. -/
def inRole (role : Role) (nodes : List Node) : List Node :=
  -- Of the nodes that a rule reads, all but the comments in front are one.
  nodes.map fun node => if node.isComment then node else node.withRole role

/-- The kind of the node that was read. -/
def kindOf? (nodes : List Node) : Option Kind :=
  nodes.getLast?.map Node.kind

namespace Scan

/-! ### Tokens -/

/-- Reads a token with the blanks and comments in front of it. -/
def token (kind : Kind) (read : Reader) : Scan (List Node) := fun text =>
  match lead text with
  | some (comments, gap, rest) =>
    (read rest).map fun (lexeme, after) =>
      (comments ++ [Node.leaf kind (String.ofList gap) (String.ofList lexeme)], after)
  | none => none

/-- Reads a token that stands right here. -/
def tokenHere (kind : Kind) (read : Reader) : Scan (List Node) := fun text =>
  (read text).map fun (lexeme, after) => ([Node.leaf kind "" (String.ofList lexeme)], after)

/-- Reads a mark. -/
def mark (lexeme : String) : Scan (List Node) :=
  token .token (exactly lexeme.toList)

/-- Reads a word of the grammar. -/
def word (lexeme : String) : Scan (List Node) :=
  token .token (exactWord lexeme)

/-- Reads a name. -/
def name (kind : Kind) : Scan (List Node) :=
  token kind name?

/-! ### What comes next -/

/-- The text from its next token on. -/
def look : Scan (List Char) :=
  return ahead (← get)

/-- Whether the next characters are these. -/
def nextIs (lexeme : String) : Scan Bool :=
  return lexeme.toList.isPrefixOf (← look)

/-- Whether the next token starts with one of these characters. -/
def nextIn (chars : String) : Scan Bool :=
  return (← look).head?.any fun c => chars.toList.contains c

/-- The next word. -/
def nextWord? : Scan (Option String) :=
  return word? (← look)

/-- Whether the next word is this one. -/
def nextWordIs (lexeme : String) : Scan Bool :=
  return (← nextWord?) == some lexeme

/-- Whether a statement may end here without a semicolon. -/
def endsHere (tail : Tail) : Scan Bool :=
  return ends tail (← get)

/-- Goes on only if a condition holds. -/
def guardThat (condition : Bool) : Scan Unit :=
  if condition then return () else failure

/-! ### Parts that are optional or repeated -/

/-- Reads a mark, if it comes next. -/
def optionalMark (lexeme : String) : Scan (List Node) := do
  if ← nextIs lexeme then mark lexeme else return []

/-- Reads a word of the grammar, if it comes next. -/
def optionalWord (lexeme : String) : Scan (List Node) := do
  if ← nextWordIs lexeme then word lexeme else return []

/-- Reads a part, if the next characters are these. -/
def optionalFrom (lexeme : String) (part : Scan (List Node)) : Scan (List Node) := do
  if ← nextIs lexeme then part else return []

/-- Extends what was read as long as a step finds more. The first number bounds the steps. -/
def extend : Nat → (List Node → Scan (Option (List Node))) → List Node → Scan (List Node)
  | 0, _, _ => failure
  | limit + 1, step, read => do
    match ← step read with
    | some longer => extend limit step longer
    | none => return read

/-- Collects what a step finds until it finds no more; `read` holds what was collected, last node
first. The first number bounds the steps. -/
def collect : Nat → Scan (Option (List Node)) → List Node → Scan (List Node)
  | 0, _, _ => failure
  | limit + 1, step, read => do
    match ← step with
    | some nodes => collect limit step (nodes.reverse ++ read)
    | none => return read.reverse

/-- Repeats a part until the closing mark comes next. -/
def untilMark (limit : Nat) (closing : String) (part : Scan (List Node)) : Scan (List Node) :=
  collect limit (do if ← nextIs closing then return none else return some (← part)) []

/-- Parts with commas between them, up to the closing mark. The last part may have a comma too. -/
def listed (limit : Nat) (closing : String) (part : Scan (List Node)) : Scan (List Node) :=
  untilMark limit closing do
    let nodes ← part
    if ← nextIs closing then return nodes
    return nodes ++ (← mark ",")

/-- As `listed`, and parts may be left out between commas. -/
def listedWithHoles (limit : Nat) (closing : String) (part : Scan (List Node)) : Scan (List Node) :=
  untilMark limit closing do
    if ← nextIs "," then mark ","
    else
      let nodes ← part
      if ← nextIs closing then return nodes
      return nodes ++ (← mark ",")

/-- One part or more with commas between them. -/
def separated (limit : Nat) (part : Scan (List Node)) : Scan (List Node) := do
  let first ← part
  let more ← collect limit (do
    if ← nextIs "," then
      let comma ← mark ","
      return some (comma ++ (← part))
    else return none) []
  return first ++ more

/-- Parts between an opening and a closing mark. -/
def between (opening closing : String) (inside : Scan (List Node)) : Scan (List Node) := do
  let first ← mark opening
  let nodes ← inside
  return first ++ nodes ++ (← mark closing)

/-- The end of a statement: a semicolon, or a place where none is needed. -/
def semicolon (tail : Tail) : Scan (List Node) := do
  if ← nextIs ";" then mark ";"
  else
    -- Nothing is read: the end of the line is left for the next token.
    guardThat (← endsHere tail)
    return []

end Scan

/-! ### The text between brackets -/

/-- What a text is made of that is only looked through. -/
inductive Inside where
  /-- Tokens; the flag says whether an operand comes next. -/
  | tokens (operandNext : Bool)
  | quoted (quote : Char)
  | template
  /-- A comment up to the end of its line, and what the flag was before it. -/
  | line (operandNext : Bool)
  /-- A comment with a closing mark, and what the flag was before it. -/
  | block (operandNext : Bool)
  | regex (inClass : Bool)

/-- What follows the bracket that closes all open ones. `opened` holds what closes each open
bracket, innermost first; a dollar sign stands for a slot of a template. -/
def afterBracketFrom (opened : List Char) : Inside → List Char → Option (List Char)
  | _, [] => none
  | .tokens operandNext, '/' :: c :: rest =>
    if c = '/' then afterBracketFrom opened (.line operandNext) rest
    else if c = '*' then afterBracketFrom opened (.block operandNext) rest
    -- Where an operand comes next, a slash opens a regular expression; elsewhere it divides.
    else afterBracketFrom opened (if operandNext then .regex false else .tokens true) (c :: rest)
  | .tokens operandNext, c :: rest =>
    if c = '(' then afterBracketFrom (')' :: opened) (.tokens true) rest
    else if c = '[' then afterBracketFrom (']' :: opened) (.tokens true) rest
    else if c = '\x7b' then afterBracketFrom ('\x7d' :: opened) (.tokens true) rest
    else if c = ')' || c = ']' || c = '\x7d' then
      match opened with
      | closing :: outer =>
        if closing = c then
          if outer.isEmpty then some rest else afterBracketFrom outer (.tokens false) rest
        -- The slot is closed and the template goes on.
        else if closing = '$' && c = '\x7d' then afterBracketFrom outer .template rest
        else none
      | [] => none
    else if c = '"' || c = '\'' then afterBracketFrom opened (.quoted c) rest
    else if c = '`' then afterBracketFrom opened .template rest
    else if isSpace c then afterBracketFrom opened (.tokens operandNext) rest
    -- Behind punctuation an operand is expected, behind a name or a number it is not.
    else afterBracketFrom opened (.tokens (isPunctuation c)) rest
  | .quoted quote, '\\' :: _ :: rest => afterBracketFrom opened (.quoted quote) rest
  | .quoted quote, c :: rest =>
    afterBracketFrom opened (if c = quote then .tokens false else .quoted quote) rest
  | .template, '\\' :: _ :: rest => afterBracketFrom opened .template rest
  | .template, '$' :: '\x7b' :: rest => afterBracketFrom ('$' :: opened) (.tokens true) rest
  | .template, c :: rest =>
    afterBracketFrom opened (if c = '`' then .tokens false else .template) rest
  | .line operandNext, c :: rest =>
    afterBracketFrom opened (if isLineEnd c then .tokens operandNext else .line operandNext) rest
  | .block operandNext, '*' :: '/' :: rest => afterBracketFrom opened (.tokens operandNext) rest
  | .block operandNext, _ :: rest => afterBracketFrom opened (.block operandNext) rest
  | .regex inClass, '\\' :: _ :: rest => afterBracketFrom opened (.regex inClass) rest
  | .regex true, c :: rest => afterBracketFrom opened (.regex (c != ']')) rest
  | .regex false, c :: rest =>
    if c = '/' then afterBracketFrom opened (.tokens false) rest
    else afterBracketFrom opened (.regex (c == '[')) rest

/-- What follows the parenthesis that closes the one at the front of a text. -/
def afterParenthesis : List Char → Option (List Char)
  | '(' :: rest => afterBracketFrom [')'] (.tokens true) rest
  | _ => none

end Accord.Script
