import Accord.Script.Lexeme
import Accord.Script.Node

/-!
# `Accord.Script.Layout`: blanks, comments and line ends between tokens

`lead` reads the blanks and comments in front of a token. Comments become nodes of their own.

A statement may end without a semicolon at the end of a line, before a closing brace and at the
end of the text. `ends` decides this from what follows. It depends on whether an expression
could go on there: a bracket on the next line continues an expression, but not a declaration.
-/

set_option autoImplicit false

namespace Accord.Script

/-- Where a reader of blanks and comments is. -/
inductive Trivia where
  /-- Between comments. -/
  | blank
  /-- Inside a comment up to the end of its line. -/
  | line
  /-- Inside a comment with a closing mark. -/
  | block

/-- The blanks and comments in front of a token, and what follows them. `comments` holds the
comments read so far, last one first, `gap` the blanks read since, and `read` what was read of
the comment at hand. There is no answer when a comment is not closed. -/
def leadFrom (comments : List Node) (gap read : List Char) :
    Trivia → List Char → Option (List Node × List Char × List Char)
  | .blank, '/' :: '/' :: rest => leadFrom comments gap ['/', '/'] .line rest
  | .blank, '/' :: '*' :: rest => leadFrom comments gap ['*', '/'] .block rest
  | .blank, c :: rest =>
    if isSpace c then leadFrom comments (c :: gap) [] .blank rest
    else some (comments.reverse, gap.reverse, c :: rest)
  | .blank, [] => some (comments.reverse, gap.reverse, [])
  | .line, c :: rest =>
    if isLineEnd c then leadFrom (comment :: comments) [c] [] .blank rest
    else leadFrom comments gap (c :: read) .line rest
  | .line, [] => some ((comment :: comments).reverse, [], [])
  | .block, '*' :: '/' :: rest =>
    let closed := Node.leaf .comment (text gap) (text ('/' :: '*' :: read))
    leadFrom (closed :: comments) [] [] .blank rest
  | .block, c :: rest => leadFrom comments gap (c :: read) .block rest
  -- A comment that is not closed makes the text unreadable, however little is behind it.
  | .block, [] => none
where
  text (backward : List Char) : String := String.ofList backward.reverse
  comment : Node := Node.leaf .comment (text gap) (text read)

/-- The blanks and comments in front of a token: the comments, the blanks after the last of them and
the rest of the text. -/
def lead (text : List Char) : Option (List Node × List Char × List Char) :=
  leadFrom [] [] [] .blank text

/-- The text from its next token on. -/
def ahead (text : List Char) : List Char :=
  match lead text with
  | some (_, _, rest) => rest
  | none => []

/-- How an expression, a type or a declaration may end. -/
inductive Tail where
  /-- Something has to follow: no statement ends here. -/
  | inside
  /-- As `inside`, and a colon follows. -/
  | beforeColon
  /-- As `inside`, and the arrow of a function follows. -/
  | beforeArrow
  /-- A statement may end here, after an expression. -/
  | expression
  /-- A statement may end here, after something that is no expression. -/
  | declaration
  deriving DecidableEq, Repr

/-- The blanks that a line may end with. -/
def lineBlankRanges : Text.Ranges :=
  [(0x9, 0xd), (0x20, 0x20), (0x1680, 0x1680), (0x2000, 0x2006), (0x2008, 0x200a),
    (0x2028, 0x2029), (0x205f, 0x205f), (0x3000, 0x3000)]

/-- Whether a character is a blank that a line may end with. -/
def isLineBlank (c : Char) : Bool :=
  lineBlankRanges.covers c

/-- Whether a statement ends before a line that starts with these characters. -/
def endsBeforeLine (afterExpression : Bool) : List Char → Bool
  | [] => true
  -- A doubled sign starts the next statement; a single one goes on with this one.
  | '+' :: rest => rest.head? == some '+'
  | '-' :: rest => rest.head? == some '-'
  | '!' :: rest => rest.head? != some '='
  | 'i' :: 'n' :: rest =>
    let continues (after : List Char) : Bool := !after.head?.any Char.isAlpha
    if continues rest then false
    else if "stanceof".toList.isPrefixOf rest then !continues (rest.drop "stanceof".length)
    else true
  | c :: _ =>
    -- A bracket is taken for a call or an index of what stands before.
    if c = '(' || c = '[' then !afterExpression
    else !"`,.;*%><=?^|&/:".toList.contains c

/-- Whether a statement ends before a closing brace: unless a type annotation follows the brace. -/
def endsBeforeBrace (afterExpression : Bool) (afterBrace : List Char) : Bool :=
  (afterBrace.dropWhile isLineBlank).head? != some ':' || afterExpression

/-- Whether a statement ends before these characters without a semicolon. -/
def endsFrom (afterExpression : Bool) : Trivia → List Char → Bool
  | .blank, '/' :: '/' :: rest => endsFrom afterExpression .line rest
  | .blank, '/' :: '*' :: rest => endsFrom afterExpression .block rest
  | .blank, '\x7d' :: rest => endsBeforeBrace afterExpression rest
  | .blank, '\n' :: rest => endsBeforeLine afterExpression (ahead rest)
  | .blank, c :: rest => if isLineBlank c then endsFrom afterExpression .blank rest else false
  | .blank, [] => true
  | .line, '\n' :: rest => endsBeforeLine afterExpression (ahead rest)
  | .line, c :: rest => endsFrom afterExpression (if isLineEnd c then .blank else .line) rest
  | .line, [] => true
  | .block, '*' :: '/' :: rest => endsFrom afterExpression .blank rest
  | .block, _ :: rest => endsFrom afterExpression .block rest
  | .block, [] => false

/-- Whether a statement may end before these characters without a semicolon. -/
def ends (tail : Tail) (text : List Char) : Bool :=
  match tail with
  | .inside | .beforeColon | .beforeArrow => false
  | .expression => endsFrom true .blank text
  | .declaration => endsFrom false .blank text

end Accord.Script
