import Accord.Number.Hex
import Accord.Text.Utf8
import Accord.Yaml.Break

/-!
# `Accord.Yaml.Token`: the tokens of YAML text

A text is a row of scalars, marks and starts and ends of indented blocks. The readers in this
module are those for the tokens that carry a name: anchors, tags and directives.
-/

set_option autoImplicit false

namespace Accord.Yaml

/-- What a line with a percent sign at its start says about the document after it. -/
inductive Directive where
  /-- The major version of the language. -/
  | version (major : Nat)
  /-- What a tag handle stands for. -/
  | handle (name lead : String)
  /-- Something else, which is ignored. -/
  | other
  deriving DecidableEq, Repr

/-- A token. -/
inductive Token where
  | directive (directive : Directive)
  | documentStart
  | documentEnd
  | blockSequenceStart
  | blockMappingStart
  | blockEnd
  | flowSequenceStart
  | flowSequenceEnd
  | flowMappingStart
  | flowMappingEnd
  | blockEntry
  | flowEntry
  | key
  | value
  | alias (name : String)
  | anchor (name : String)
  | tag (handle : Option String) (suffix : String)
  | scalar (isPlain : Bool) (text : String)
  deriving DecidableEq, Repr

/-- Whether a character can stand in the name of an anchor, a directive or a tag handle. -/
def isNameChar (c : Char) : Bool :=
  c.isAlphanum || c == '-' || c == '_'

/-- The name of an anchor or alias at the start of a text, and the characters after it. -/
def anchorName (text : List Char) : Option (String × List Char) :=
  let name := text.takeWhile isNameChar
  let rest := text.dropWhile isNameChar
  let ends := atGap rest || (rest.head?.map ("?:,]\x7d%@\x60".toList.contains ·)).getD false
  if !name.isEmpty && ends then some (String.ofList name, rest) else none

/-- Whether a character can stand in the suffix of a tag. -/
def isTagChar (c : Char) : Bool :=
  c.isAlphanum || "-;/?:@&=+$,_.!~*'()[]".toList.contains c

/-- The octets that are spelled with percent signs at the start of a text. -/
def tagOctets : List Char → Option (List UInt8 × List Char)
  | '%' :: high :: low :: rest => do
    let high ← Number.hexDigit? high
    let low ← Number.hexDigit? low
    let (octets, after) ← tagOctets rest
    return (UInt8.ofNat (high * 16 + low) :: octets, after)
  | '%' :: _ => none
  | text => some ([], text)

/-- The characters of a tag, and those after them. -/
def tagText : Nat → List Char → Option (List Char × List Char)
  | 0, _ => none
  | fuel + 1, text =>
    match text with
    | [] => some ([], [])
    | c :: rest =>
      if c == '%' then do
        -- The octets of one run are decoded together, since a character may take several.
        let (octets, after) ← tagOctets text
        let chars ← (Text.decode octets).toOption
        let (more, left) ← tagText fuel after
        return (chars ++ more, left)
      else if isTagChar c then do
        let (more, left) ← tagText fuel rest
        return (c :: more, left)
      else some ([], text)

/-- The suffix of a tag at the start of a text, which cannot be empty. -/
def tagSuffix (text : List Char) : Option (String × List Char) := do
  let (chars, rest) ← tagText (text.length + 1) text
  if rest.length < text.length then some (String.ofList chars, rest) else none

/-- The handle of a tag: an exclamation mark, alone or with a name and a second mark. -/
def tagHandle (text : List Char) : Option (String × List Char) :=
  match text with
  | '!' :: rest =>
    if rest.head? == some ' ' then some ("!", rest)
    else
      match rest.dropWhile isNameChar with
      | '!' :: after =>
        some (String.ofList ('!' :: rest.takeWhile isNameChar ++ ['!']), after)
      | _ => none
  | _ => none

/-- The handle and the suffix of a tag whose exclamation mark stands before a text. -/
def tagParts (text : List Char) : Option (Token × List Char) :=
  match text with
  | '<' :: inside => do
    let (suffix, rest) ← tagSuffix inside
    match rest with
    | '>' :: after => some (.tag none suffix, after)
    | _ => none
  | _ =>
    if atGap text then some (.tag none "!", text)
    else do
      let word := text.takeWhile fun c => !(c == ' ' || isBreak c)
      -- A second mark further on in the word makes a handle of what is in front of it.
      let (handle, rest) ← if word.contains '!' then tagHandle ('!' :: text) else some ("!", text)
      let (suffix, after) ← tagSuffix rest
      return (.tag (some handle) suffix, after)

/-- The tag whose exclamation mark stands before a text; a space or the end of the line follows
it. -/
def tag (text : List Char) : Option (Token × List Char) := do
  let (token, rest) ← tagParts text
  if atSpace rest then some (token, rest) else none

/-- The value of a run of digits at the start of a text, and the characters after it. -/
def versionPart (text : List Char) : Option (Nat × List Char) :=
  let digits := text.takeWhile Char.isDigit
  if digits.isEmpty then none
  else
    some (digits.foldl (fun value digit => value * 10 + (digit.toNat - '0'.toNat)) 0,
      text.dropWhile Char.isDigit)

/-- What a directive for the version says. -/
def versionDirective (text : List Char) : Option (Directive × List Char) := do
  let (major, rest) ← versionPart (text.dropWhile (· == ' '))
  match rest with
  | '.' :: rest =>
    -- The minor version is read and not looked at.
    let (_, rest) ← versionPart rest
    if atSpace rest then some (.version major, rest) else none
  | _ => none

/-- What a directive for a tag handle says. -/
def handleDirective (text : List Char) : Option (Directive × List Char) := do
  let (handle, rest) ← tagHandle (text.dropWhile (· == ' '))
  if rest.head? == some ' ' then
    let (lead, rest) ← tagSuffix (rest.dropWhile (· == ' '))
    if atSpace rest then some (.handle handle lead, rest) else none
  else none

/-- The directive whose percent sign stands before a text, and the lines after it. -/
def directive (text : List Char) : Option (Directive × List Char) := do
  let name := text.takeWhile isNameChar
  let rest := text.dropWhile isNameChar
  if name.isEmpty || !atSpace rest then none
  else
    let (directive, rest) ←
      if name == "YAML".toList then versionDirective rest
      else if name == "TAG".toList then handleDirective rest
      else some (.other, rest.dropWhile fun c => !isBreak c)
    let lines ← skipIdleLine rest
    return (directive, lines)

end Accord.Yaml
