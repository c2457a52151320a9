import Accord.Number.Hex
import Accord.Yaml.Break

/-!
# `Accord.Yaml.Scalar`: scalars as they are written

A scalar is written plain, between quotes, or as a block of lines under an indicator. Each
reader gives the text of the scalar and the characters after it. Lines inside a scalar are
folded: see `folded`.
-/

set_option autoImplicit false

namespace Accord.Yaml

/-! ### Plain scalars -/

/-- The characters with a meaning of their own between brackets. -/
def isFlowMark (c : Char) : Bool :=
  c == ',' || c == '[' || c == ']' || c == '\x7b' || c == '\x7d'

/-- Whether a colon before a text ends a plain scalar. -/
def endsPlain (inFlow : Bool) (text : List Char) : Bool :=
  atGap text || (inFlow && (text.head?.map isFlowMark).getD false)

/-- The part of a plain scalar up to the next gap, and the characters after it. -/
def plainRun (inFlow : Bool) : List Char → List Char × List Char
  | [] => ([], [])
  | c :: rest =>
    -- A colon ends the scalar only where it could make a key of it.
    if isSpacing c || isBreak c || (c == ':' && endsPlain inFlow rest) ||
        (inFlow && (isFlowMark c || c == '?')) then ([], c :: rest)
    else
      let (run, after) := plainRun inFlow rest
      (c :: run, after)

/-- What stands between two parts of a plain scalar. -/
structure PlainGap where
  /-- What the gap stands for; nothing when the scalar ends with it. -/
  value : List Char
  /-- Whether a line ends in the gap. -/
  broken : Bool
  /-- How many spaces stand at the start of the last line. -/
  column : Nat
  /-- The characters after the gap. -/
  rest : List Char

/-- The ends of lines and the spaces that follow the end of a line. A document marker ends the
scalar. -/
def plainBreaks (first : Char) : Nat → List Char → List Char → PlainGap
  | column, breaks, [] => ⟨folded first breaks.reverse, true, column, []⟩
  | column, breaks, c :: rest =>
    if c == ' ' then plainBreaks first (column + 1) breaks rest
    else if isBreak c then
      if atMarker rest then ⟨[], true, 0, rest⟩
      else plainBreaks first 0 (breakValue c :: breaks) rest
    else ⟨folded first breaks.reverse, true, column, c :: rest⟩

/-- The gap at the start of a text. -/
def plainGap (text : List Char) : PlainGap :=
  let spaces := text.takeWhile (· == ' ')
  match text.dropWhile (· == ' ') with
  | [] => ⟨spaces, false, spaces.length, []⟩
  | c :: rest =>
    if isBreak c then
      if atMarker rest then ⟨[], true, 0, rest⟩ else plainBreaks (breakValue c) 0 [] rest
    else ⟨spaces, false, spaces.length, c :: rest⟩

/-- A plain scalar: its text, whether a line ends behind its last part, and the characters after
it. -/
structure Plain where
  text : List Char
  broken : Bool
  rest : List Char

/-- Reads the parts of a plain scalar on; `between` is the gap behind those that are read. Outside
brackets the scalar ends before a line that starts left of its column. -/
def plainFrom (inFlow : Bool) (indent : Nat) :
    Nat → List Char → List Char → Bool → List Char → Plain
  | 0, read, _, broken, text => ⟨read, broken, text⟩
  | fuel + 1, read, between, broken, text =>
    match plainRun inFlow text with
    | ([], _) => ⟨read, broken, text⟩
    | (run, after) =>
      let gap := plainGap after
      -- A number sign behind a gap starts a comment.
      let stops := gap.value.isEmpty || gap.rest.head? == some '#' ||
        (!inFlow && gap.broken && decide (gap.column < indent))
      if stops then ⟨read ++ between ++ run, gap.broken, gap.rest⟩
      else plainFrom inFlow indent fuel (read ++ between ++ run) gap.value gap.broken gap.rest

/-- The plain scalar at the start of a text. -/
def plain (inFlow : Bool) (indent : Nat) (text : List Char) : Plain :=
  plainFrom inFlow indent (text.length + 1) [] [] false text

/-! ### Quoted scalars -/

/-- The ends of lines and the spaces that follow the end of a line between quotes. No document
marker may stand there. -/
def quotedBreaks : Nat → List Char → List Char → Option (List Char × List Char)
  | 0, _, _ => none
  | fuel + 1, breaks, text =>
    if atMarker text then none
    else
      match text.dropWhile isSpacing with
      | [] => some (breaks.reverse, [])
      | c :: rest =>
        if isBreak c then quotedBreaks fuel (breakValue c :: breaks) rest
        else some (breaks.reverse, c :: rest)

/-- The gap at the start of a text between quotes, and the characters after it. -/
def quotedGap (text : List Char) : Option (List Char × List Char) :=
  match text.dropWhile isSpacing with
  | [] => none
  | c :: rest =>
    if isBreak c then do
      let (breaks, after) ← quotedBreaks (rest.length + 1) [] rest
      return (folded (breakValue c) breaks, after)
    else some (text.takeWhile isSpacing, c :: rest)

/-- The character that a backslash and a letter stand for. -/
def escapeValue? : Char → Option Char
  | '0' => some '\x00'
  | 'a' => some '\x07'
  | 'b' => some '\x08'
  | 't' | '\t' => some '\t'
  | 'n' => some '\n'
  | 'v' => some '\x0b'
  | 'f' => some '\x0c'
  | 'r' => some '\r'
  | 'e' => some '\x1b'
  | ' ' => some ' '
  | '"' => some '"'
  | '\\' => some '\\'
  | '/' => some '/'
  | 'N' => some '\u0085'
  | '_' => some '\u00a0'
  | 'L' => some '\u2028'
  | 'P' => some '\u2029'
  | _ => none

/-- How many digits follow a backslash and a letter that spell a code. -/
def escapeWidth? : Char → Option Nat
  | 'x' => some 2
  | 'u' => some 4
  | 'U' => some 8
  | _ => none

/-- The number that so many digits in base sixteen spell, and the characters after them. -/
def hexCode : Nat → Nat → List Char → Option (Nat × List Char)
  | 0, value, rest => some (value, rest)
  | _ + 1, _, [] => none
  | width + 1, value, c :: rest => do
    let digit ← Number.hexDigit? c
    hexCode width (value * 16 + digit) rest

/-- What a backslash and the text after it stand for, and the characters after that. -/
def escape (text : List Char) : Option (List Char × List Char) :=
  match text with
  | [] => none
  | c :: rest =>
    match escapeValue? c, escapeWidth? c with
    | some value, _ => some ([value], rest)
    | none, some width => do
      let (code, after) ← hexCode width 0 rest
      return ([Char.ofNat code], after)
    | none, none => if isBreak c then quotedBreaks (rest.length + 1) [] rest else none

/-- Reads a scalar up to its closing quote; `read` holds the characters before, last one first. -/
def quotedFrom (double : Bool) : Nat → List Char → List Char → Option (List Char × List Char)
  | 0, _, _ => none
  | fuel + 1, read, text =>
    match text with
    | [] => none
    | c :: rest =>
      if isSpacing c || isBreak c then do
        let (value, after) ← quotedGap text
        quotedFrom double fuel (value.reverse ++ read) after
      else if double && c == '\\' then do
        let (value, after) ← escape rest
        quotedFrom double fuel (value.reverse ++ read) after
      else if double && c == '"' then some (read.reverse, rest)
      else if !double && c == '\'' then
        -- Two quotes in a row stand for one.
        match rest with
        | '\'' :: after => quotedFrom double fuel ('\'' :: read) after
        | _ => some (read.reverse, rest)
      else quotedFrom double fuel (c :: read) rest

/-- The scalar whose opening quote stands before a text. -/
def quoted (double : Bool) (text : List Char) : Option (List Char × List Char) :=
  quotedFrom double (text.length + 1) [] text

/-! ### Block scalars -/

/-- What happens to the line ends at the end of a block. -/
inductive Chomping where
  /-- The first one is kept. -/
  | clip
  /-- None is kept. -/
  | strip
  /-- All are kept. -/
  | keep
  deriving DecidableEq, Repr

/-- What the signs behind the indicator of a block say. -/
structure BlockHeader where
  chomping : Chomping
  /-- How far the block is indented, if that is said. -/
  increment : Option Nat

/-- The sign for the line ends at the end of a block. -/
def chompingSign : List Char → Chomping × List Char
  | '+' :: rest => (.keep, rest)
  | '-' :: rest => (.strip, rest)
  | text => (.clip, text)

/-- The digit that says how far a block is indented; it cannot be zero. -/
def incrementDigit : List Char → Option (Option Nat × List Char)
  | [] => some (none, [])
  | c :: rest =>
    if c == '0' then none
    else if c.isDigit then some (some (c.toNat - '0'.toNat), rest)
    else some (none, c :: rest)

/-- The signs behind the indicator of a block, in either order, and the text of its first line. -/
def blockHeader (text : List Char) : Option (BlockHeader × List Char) := do
  let (before, rest) := chompingSign text
  let (increment, rest) ← incrementDigit rest
  -- The sign may stand on either side of the digit, but only once.
  let (chomping, rest) :=
    if before = .clip && increment.isSome then chompingSign rest else (before, rest)
  if atSpace rest then
    let lines ← skipIdleLine rest
    return (⟨chomping, increment⟩, lines)
  else none

/-- The empty lines at the start of a text, the greatest number of spaces at the start of a line
up to the first one with something else on it, the number of spaces at the start of that line,
and the characters after them. -/
def detectIndent (deepest column : Nat) (breaks : List Char) :
    List Char → List Char × Nat × Nat × List Char
  | [] => (breaks.reverse, deepest, column, [])
  | c :: rest =>
    if c == ' ' then detectIndent (max deepest (column + 1)) (column + 1) breaks rest
    else if isBreak c then detectIndent deepest 0 (breakValue c :: breaks) rest
    else (breaks.reverse, deepest, column, c :: rest)

/-- The empty lines at the start of a text, the number of spaces at the start of the next line,
at most as many as the block is indented, and the characters after them. -/
def blockBreaks (indent column : Nat) (breaks : List Char) :
    List Char → List Char × Nat × List Char
  | [] => (breaks.reverse, column, [])
  | c :: rest =>
    if c == ' ' && decide (column < indent) then blockBreaks indent (column + 1) breaks rest
    else if isBreak c then blockBreaks indent 0 (breakValue c :: breaks) rest
    else (breaks.reverse, column, c :: rest)

/-- What has been read of a block: its text, the end of its last line and the empty lines after
it. -/
structure Block where
  text : List Char
  lineEnd : List Char
  breaks : List Char
  rest : List Char

/-- Whether a text starts a line that is not indented further than its block. -/
def isFlush (text : List Char) : Bool :=
  !(text.head?.map isSpacing).getD false

/-- What joins a line of a block to the next one. Folding spares the lines that are indented further
than the block. -/
def blockJoint (isFolded : Bool) (line lineEnd breaks next : List Char) : List Char :=
  if isFolded && lineEnd == ['\n'] && isFlush line && isFlush next then
    if breaks.isEmpty then [' '] else []
  else lineEnd

/-- Reads the lines of a block. -/
def blockLines (isFolded : Bool) (indent : Nat) :
    Nat → List Char → Nat → List Char → List Char → Block
  | 0, read, _, breaks, text => ⟨read, [], breaks, text⟩
  | fuel + 1, read, column, breaks, text =>
    if column = indent && !text.isEmpty then
      let line := text.takeWhile fun c => !isBreak c
      let after := text.dropWhile fun c => !isBreak c
      let lineEnd := (after.take 1).map breakValue
      let (empty, next, rest) := blockBreaks indent 0 [] (after.drop 1)
      let written := read ++ breaks ++ line
      if next = indent && !rest.isEmpty then
        blockLines isFolded indent fuel
          (written ++ blockJoint isFolded text lineEnd empty rest) next
          empty rest
      else ⟨written, lineEnd, empty, rest⟩
    else ⟨read, [], breaks, text⟩

/-- The line ends at the end of a block that are part of its text. -/
def chomped (chomping : Chomping) (block : Block) : List Char :=
  match chomping with
  | .strip => block.text
  | .clip => block.text ++ block.lineEnd
  | .keep => block.text ++ block.lineEnd ++ block.breaks

/-- The block whose indicator stands before a text, and the characters after it. A block is
indented by at least `least` columns. -/
def block (isFolded : Bool) (least : Nat) (text : List Char) : Option (List Char × List Char) := do
  let (header, lines) ← blockHeader text
  let read := match header.increment with
    | some increment =>
      -- The digit counts from the block around, which has one column less than the least one.
      let indent := least + increment - 1
      let (breaks, column, rest) := blockBreaks indent 0 [] lines
      blockLines isFolded indent (rest.length + 1) [] column breaks rest
    -- The first line with something on it says how far the block is indented.
    | none =>
      let (breaks, deepest, column, rest) := detectIndent 0 0 [] lines
      blockLines isFolded (max least deepest) (rest.length + 1) [] column breaks rest
  return (chomped header.chomping read, read.rest)

end Accord.Yaml
