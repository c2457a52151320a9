import Accord.Yaml.Scalar
import Accord.Yaml.Token

/-!
# `Accord.Yaml.Indentation`: from text to tokens

Outside brackets the column of a token says which block it belongs to: a token further to the
right than the innermost block may open a new one, and a token to the left of it closes blocks.
`Scan.step` reads one token. That a token is a key is only known at the colon behind it, so the
scan keeps, for every level of brackets, the index of the token that may turn out to be a key;
the tokens that say so are then inserted there. A key fits on one line and is not longer than
`maxKeyLength`.

The answer is `none` as soon as the text cannot be YAML.
-/

set_option autoImplicit false

namespace Accord.Yaml

/-- A place in a text. -/
structure Place where
  offset : Nat
  line : Nat
  column : Nat

/-- The place behind a character. A byte order mark takes no column. -/
def Place.next (place : Place) (c : Char) : Place :=
  if isBreak c then ⟨place.offset + 1, place.line + 1, 0⟩
  else if c == '\uFEFF' then { place with offset := place.offset + 1 }
  else ⟨place.offset + 1, place.line, place.column + 1⟩

/-- A token that may turn out to start a key. -/
structure PendingKey where
  /-- The index of the token. -/
  index : Nat
  /-- Where the token starts. -/
  place : Place
  /-- Whether the text is no YAML unless it is a key. -/
  required : Bool

/-- How long a key can be. -/
def maxKeyLength : Nat := 1024

/-- The state of a scan. -/
structure Scan where
  /-- The characters that are left. -/
  text : List Char
  /-- Where they start. -/
  place : Place
  /-- The tokens so far. -/
  tokens : Array Token
  /-- The column of the innermost block; the document itself has the column -1. -/
  indent : Int
  /-- The columns of the blocks around it, innermost first. -/
  outer : List Int
  /-- Whether a key may start here. -/
  keyAllowed : Bool
  /-- What may turn out to be a key: outside brackets last, and inside the innermost ones first. -/
  keys : List (Option PendingKey)

namespace Scan

/-- The state before a text. -/
def start (text : List Char) : Scan :=
  ⟨text, ⟨0, 0, 0⟩, #[], -1, [], true, [none]⟩

/-- Whether the scan is between brackets. -/
def inFlow (scan : Scan) : Bool :=
  scan.keys.length > 1

/-- Goes on to the characters that are left after something was read. -/
def moveTo (scan : Scan) (rest : List Char) : Scan :=
  { scan with
    text := rest
    place := (scan.text.take (scan.text.length - rest.length)).foldl Place.next scan.place }

/-- Adds a token. -/
def push (scan : Scan) (token : Token) : Scan :=
  { scan with tokens := scan.tokens.push token }

/-- Adds a token before the one with an index. -/
def insert (scan : Scan) (index : Nat) (token : Token) : Scan :=
  { scan with tokens := scan.tokens.insertIdxIfInBounds index token }

/-! ### Between tokens -/

/-- The characters after spaces, comments and ends of lines, and whether a line ended there. -/
def skipGap : Nat → Bool → List Char → Bool × List Char
  | 0, broken, text => (broken, text)
  | fuel + 1, broken, text =>
    match skipComment (text.dropWhile (· == ' ')) with
    | [] => (broken, [])
    | c :: rest => if isBreak c then skipGap fuel true rest else (broken, c :: rest)

/-- Goes on to the next token. Outside brackets a key may start a line. -/
def toToken (scan : Scan) : Scan :=
  let text := match scan.place.offset, scan.text with
    -- A byte order mark is passed over at the very start.
    | 0, '\uFEFF' :: rest => rest
    | _, text => text
  let (broken, rest) := skipGap (text.length + 1) false text
  let moved := scan.moveTo rest
  if broken && !scan.inFlow then { moved with keyAllowed := true } else moved

/-- Closes the blocks to the right of a column. -/
def unwindFrom (column : Int) : Int → List Int → Array Token → Int × List Int × Array Token
  | indent, [], tokens => (indent, [], tokens)
  | indent, around :: outer, tokens =>
    if column < indent then unwindFrom column around outer (tokens.push .blockEnd)
    else (indent, around :: outer, tokens)

/-- Closes the blocks to the right of a column; between brackets there are none. -/
def unwind (scan : Scan) (column : Int) : Scan :=
  if scan.inFlow then scan
  else
    let (indent, outer, tokens) := unwindFrom column scan.indent scan.outer scan.tokens
    { scan with indent := indent, outer := outer, tokens := tokens }

/-- Opens a block at a column if it is to the right of the innermost one; `index` is where the token
that opens it stands. -/
def openBlock (scan : Scan) (column : Nat) (index : Nat) (token : Token) : Scan :=
  if scan.indent < column then
    { scan.insert index token with indent := column, outer := scan.indent :: scan.outer }
  else scan

/-! ### Keys -/

/-- Gives up a token that may be a key, which fails if it has to be one. -/
def giveUp : Option PendingKey → Option (Option PendingKey)
  | none => some none
  | some key => if key.required then none else some none

/-- Gives up what can no longer be a key at this place. -/
def dropStale (scan : Scan) : Option Scan := do
  let keys ← scan.keys.mapM fun pending =>
    match pending with
    | none => some none
    | some key =>
      -- A key stands on one line and is not too long.
      if key.place.line ≠ scan.place.line ||
          decide (maxKeyLength < scan.place.offset - key.place.offset) then giveUp pending
      else some pending
  return { scan with keys := keys }

/-- Gives up what may be a key on this level of brackets. -/
def dropKey (scan : Scan) : Option Scan :=
  match scan.keys with
  | [] => some scan
  | pending :: around => do
    let given ← giveUp pending
    return { scan with keys := given :: around }

/-- Notes that the next token may be a key. -/
def noteKey (scan : Scan) : Option Scan :=
  if scan.keyAllowed then do
    let free ← scan.dropKey
    -- A token at the column of its block has to be the next key.
    let required := !scan.inFlow && scan.indent == scan.place.column
    return { free with
      keys := some ⟨scan.tokens.size, scan.place, required⟩ :: free.keys.drop 1 }
  else some scan

/-- Says whether a key may start next. -/
def allowKey (scan : Scan) (allowed : Bool) : Scan :=
  { scan with keyAllowed := allowed }

/-! ### Tokens -/

/-- A token that may be a key and after which none may start. -/
def word (scan : Scan) (token : Token) (rest : List Char) : Option Scan := do
  let noted ← scan.noteKey
  return ((noted.allowKey false).push token).moveTo rest

/-- A token that ends what stood before it. -/
def mark (scan : Scan) (allowed : Bool) (token : Token) (rest : List Char) : Option Scan := do
  let dropped ← scan.dropKey
  return ((dropped.allowKey allowed).push token).moveTo rest

/-- A directive or a document marker, which closes all blocks. -/
def boundary (scan : Scan) (token : Token) (rest : List Char) : Option Scan :=
  (scan.unwind (-1)).mark false token rest

/-- An opening bracket. -/
def openFlow (scan : Scan) (token : Token) (rest : List Char) : Option Scan := do
  let noted ← scan.noteKey
  return (({ noted with keys := none :: noted.keys }.allowKey true).push token).moveTo rest

/-- A closing bracket, which needs an opening one. -/
def closeFlow (scan : Scan) (token : Token) (rest : List Char) : Option Scan :=
  if scan.inFlow then do
    let dropped ← scan.dropKey
    -- The level of the bracket is left, and what was pending around it is again at hand.
    return (({ dropped with keys := dropped.keys.drop 1 }.allowKey false).push token).moveTo rest
  else none

/-- A dash, a question mark or a colon that is not known to follow a key. Outside brackets it has to
stand where a key may start, and may open a block. -/
def indicator (scan : Scan) (block token : Token) (allowed : Bool) (rest : List Char) :
    Option Scan :=
  if scan.inFlow then scan.mark allowed token rest
  else if scan.keyAllowed then
    (scan.openBlock scan.place.column scan.tokens.size block).mark allowed token rest
  else none

/-- A colon. What stands before it on this level becomes a key if it can be one. -/
def colon (scan : Scan) (rest : List Char) : Option Scan :=
  match scan.keys with
  -- The tokens that say so are put in front of the key, which is there already.
  | some key :: around =>
    let known := { scan with keys := none :: around }.insert key.index .key
    let placed :=
      if scan.inFlow then known
      else known.openBlock key.place.column key.index .blockMappingStart
    some (((placed.allowKey false).push .value).moveTo rest)
  | _ => scan.indicator .blockMappingStart .value (!scan.inFlow) rest

/-- A scalar between quotes. -/
def quotedScalar (scan : Scan) (double : Bool) (rest : List Char) : Option Scan := do
  let (text, after) ← quoted double rest
  scan.word (.scalar false (String.ofList text)) after

/-- A block scalar, which is indented further than the innermost block. -/
def blockScalar (scan : Scan) (isFolded : Bool) (rest : List Char) : Option Scan := do
  let (text, after) ← block isFolded (max (scan.indent + 1) 1).toNat rest
  scan.mark true (.scalar false (String.ofList text)) after

/-- Whether a plain scalar can start with a character before a text. -/
def startsPlain (inFlow : Bool) (c : Char) (rest : List Char) : Bool :=
  !(isSpacing c || isBreak c || "-?:,[]\x7b\x7d#&*!|>'\"%@\x60".toList.contains c) ||
    (!atGap rest && (c == '-' || (!inFlow && (c == '?' || c == ':'))))

/-- A plain scalar. Where a line ends behind it a key may start. -/
def plainScalar (scan : Scan) : Option Scan := do
  let read := plain scan.inFlow (scan.indent + 1).toNat scan.text
  let added ← scan.word (.scalar true (String.ofList read.text)) read.rest
  return added.allowKey read.broken

/-- Reads the token that starts with a character before a text. -/
def step (scan : Scan) (c : Char) (rest : List Char) : Option Scan :=
  let atStart := scan.place.column == 0
  match c with
  | '[' => scan.openFlow .flowSequenceStart rest
  | '\x7b' => scan.openFlow .flowMappingStart rest
  | ']' => scan.closeFlow .flowSequenceEnd rest
  | '\x7d' => scan.closeFlow .flowMappingEnd rest
  | ',' => scan.mark true .flowEntry rest
  | '*' => do
    let (name, after) ← anchorName rest
    scan.word (.alias name) after
  | '&' => do
    let (name, after) ← anchorName rest
    scan.word (.anchor name) after
  | '!' => do
    let (token, after) ← tag rest
    scan.word token after
  | '\'' => scan.quotedScalar false rest
  | '"' => scan.quotedScalar true rest
  | _ =>
    -- Directives and markers stand at the start of a line only.
    if c == '%' && atStart then do
      let (found, lines) ← directive rest
      scan.boundary (.directive found) lines
    else if (c == '-' || c == '.') && atStart && atMarker scan.text then
      scan.boundary (if c == '-' then .documentStart else .documentEnd) (rest.drop 2)
    else if c == '-' && atGap rest then
      scan.indicator .blockSequenceStart .blockEntry true rest
    else if c == '?' && (scan.inFlow || atGap rest) then
      scan.indicator .blockMappingStart .key (!scan.inFlow) rest
    else if c == ':' && (scan.inFlow || atGap rest) then scan.colon rest
    else if (c == '|' || c == '>') && !scan.inFlow then scan.blockScalar (c == '>') rest
    else if startsPlain scan.inFlow c rest then scan.plainScalar
    else none

/-- Reads tokens up to the end of the text, which closes all blocks. -/
def run : Nat → Scan → Option (Array Token)
  | 0, _ => none
  | fuel + 1, scan => do
    let fresh ← scan.toToken.dropStale
    let placed := fresh.unwind fresh.place.column
    match placed.text with
    | [] =>
      -- A key that has to be one may still be pending at the end.
      let closed ← (placed.unwind (-1)).dropKey
      return closed.tokens
    | c :: rest =>
      let next ← placed.step c rest
      run fuel next

end Scan

/-- The tokens of a text, if it can be YAML. -/
def tokens (text : List Char) : Option (Array Token) :=
  Scan.run (text.length + 1) (Scan.start text)

end Accord.Yaml
