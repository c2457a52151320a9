import Accord.Yaml.Tree

/-!
# `Accord.Yaml.Value`: reading YAML text

`read` gives the value of a text that holds one document. A text that is no YAML, or that asks
for something other than plain data, is malformed. A scalar may also have a tag that its text
does not keep to, and nodes may stand inside each other more deeply than there is room for; each
way in which that happens is a fault of its own. Numbers and dates are kept as they are written.
Of two entries with one name the later one counts.
-/

set_option autoImplicit false

namespace Accord.Yaml

/-- A value. -/
inductive Value where
  | null
  | boolean (value : Bool)
  | number (text : String)
  | date (text : String)
  | text (text : String)
  /-- Octets, a set, or another sort of data that is rarely asked for. -/
  | rare
  | sequence (items : List Value)
  | mapping (entries : List (Value × Value))

/-- Why a text has no value. -/
inductive Fault where
  /-- The text is no YAML, or no plain data. -/
  | malformed
  /-- The nodes stand inside each other too deeply. -/
  | tooDeep
  /-- A scalar is said to be a truth value and is none. -/
  | noBoolean
  /-- A scalar is said to be a number, or has the form of one, and is none. -/
  | noNumber
  /-- A scalar is said to be a number and has no characters. -/
  | noCharacters
  /-- A scalar is said to be a date and does not have the form of one. -/
  | noDate
  /-- A mapping is said to be a date. -/
  | dateOfMapping
  /-- A scalar has the form of a date that does not exist. -/
  | unrealDate
  deriving DecidableEq, Repr

/-- Whether a character may stand in YAML text. -/
def isAllowed (c : Char) : Bool :=
  c == '\t' || c == '\n' || c == '\r' || (' ' ≤ c && c ≤ '~') || c == '\u0085' ||
    ('\u00a0' ≤ c && c ≠ '\uFFFE' && c ≠ '\uFFFF')

/-- The fault of a text that is said to be a whole number, if it is none. -/
def integerFault? (text : List Char) : Option Fault :=
  let written := text.filter (· != '_')
  if (dropSign written).isEmpty then some .noCharacters
  else if spellsInteger written then none
  else some .noNumber

/-- The fault of a text that is said to be a number, if it is none. -/
def numberFault? (text : List Char) : Option Fault :=
  let written := text.filter (· != '_')
  if written.isEmpty then some .noCharacters
  else if spellsNumber written then none
  else some .noNumber

/-- A number as it is written, unless it has a fault. -/
def numberValue (text : String) : Option Fault → Except Fault Value
  | none => .ok (.number text)
  | some fault => .error fault

/-- The value of a scalar with a tag. -/
def scalarValue (tag text : String) : Except Fault Value :=
  if tag = textTag then .ok (.text text)
  else if tag = nullTag then .ok .null
  else if tag = booleanTag then
    if trueWords.contains text.toLower then .ok (.boolean true)
    else if falseWords.contains text.toLower then .ok (.boolean false)
    else .error .noBoolean
  else if tag = integerTag then numberValue text (integerFault? text.toList)
  else if tag = floatTag then numberValue text (numberFault? text.toList)
  else if tag = dateTag then
    match date? text.toList with
    | some date => if date.isReal then .ok (.date text) else .error .unrealDate
    | none => .error .noDate
  else if tag = standardTag "binary" then .ok .rare
  else .error .malformed

/-- The tag of a node. -/
def Tree.tag : Tree → String
  | .scalar tag _ | .sequence tag _ | .mapping tag _ => tag

mutual

/-- The text of a scalar. A mapping has that of the value that it stands for. -/
def Tree.text? : Tree → Option String
  | .scalar _ text => some text
  | .sequence _ _ => none
  | .mapping _ entries => defaultText? entries

/-- The text of the value that the mapping with these entries stands for. -/
def defaultText? : List (Tree × Tree) → Option String
  | [] => none
  | (key, content) :: rest => if key.tag = defaultTag then content.text? else defaultText? rest

end

/-- The value of a mapping with the tag of a scalar. -/
def mappedScalar (tag : String) (entries : List (Tree × Tree)) : Except Fault Value :=
  match defaultText? entries with
  | none => .error .malformed
  -- Dates are read off the node itself, and a mapping has nothing to read them off.
  | some text => if tag = dateTag then .error .dateOfMapping else scalarValue tag text

/-- The name that the key for the value of a mapping has among the other keys: it counts as its
text. -/
def defaultName (key : Tree) : Except Fault Value :=
  match key.text? with
  | some text => .ok (.text text)
  | none => .error .malformed

/-- Whether a value can be a key: no collection can. -/
def isKey : Value → Bool
  | .sequence _ | .mapping _ => false
  | _ => true

mutual

/-- The value of a node. -/
def Tree.value : Tree → Except Fault Value
  | .scalar tag text => scalarValue tag text
  | .sequence tag items => do
    if tag = sequenceTag then return .sequence (← itemValues items)
    else if tag = standardTag "omap" || tag = standardTag "pairs" then
      let _ ← itemValues items
      return .rare
    else .error .malformed
  | .mapping tag entries => do
    if tag = mappingTag then
      let (merged, own) ← entryValues entries
      return .mapping (merged ++ own)
    else if tag = standardTag "set" then
      let _ ← entryValues entries
      return .rare
    else mappedScalar tag entries

/-- The values of nodes. -/
def itemValues : List Tree → Except Fault (List Value)
  | [] => .ok []
  | item :: rest => do
    let value ← item.value
    let values ← itemValues rest
    return value :: values

/-- The entries that a mapping takes over, and its own ones. -/
def entryValues : List (Tree × Tree) → Except Fault (List (Value × Value) × List (Value × Value))
  | [] => .ok ([], [])
  | (key, content) :: rest => do
    -- What is taken over comes in front of the own entries, which therefore win.
    if key.tag = mergeTag then
      let taken ← mergedEntries content
      let (merged, own) ← entryValues rest
      return (taken ++ merged, own)
    else
      let name ← if key.tag = defaultTag then defaultName key else key.value
      if !isKey name then .error .malformed
      let value ← content.value
      let (merged, own) ← entryValues rest
      return (merged, (name, value) :: own)

/-- The entries that are taken over from a mapping, or from several, of which the first one
counts. -/
def mergedEntries : Tree → Except Fault (List (Value × Value))
  | .mapping _ entries => do
    let (merged, own) ← entryValues entries
    return merged ++ own
  | .sequence _ items => mergedItems items
  | .scalar _ _ => .error .malformed

/-- The entries that are taken over from the mappings in a list, those of the first one last. -/
def mergedItems : List Tree → Except Fault (List (Value × Value))
  | [] => .ok []
  | .mapping _ entries :: rest => do
    let (merged, own) ← entryValues entries
    let others ← mergedItems rest
    -- The mapping that comes first is written last, over the others.
    return others ++ merged ++ own
  | _ :: _ => .error .malformed

end

/-- Whether more than `limit` lists and mappings stand inside each other, when `depth` of them
are open before the tokens. -/
def isTooDeep (limit depth : Nat) : List Token → Bool
  | [] => false
  | token :: rest =>
    match token with
    | .blockSequenceStart | .blockMappingStart | .flowSequenceStart | .flowMappingStart =>
      decide (limit ≤ depth) || isTooDeep limit (depth + 1) rest
    | .blockEnd | .flowSequenceEnd | .flowMappingEnd => isTooDeep limit (depth - 1) rest
    | _ => isTooDeep limit depth rest

/-- The value of a text, with room for so many lists and mappings inside each other. -/
def read (limit : Nat) (text : List Char) : Except Fault Value :=
  if text.all isAllowed then
    match tokens text with
    | none => .error .malformed
    | some tokens =>
      -- The depth is that of the tokens, so it is known before a tree is made.
      if isTooDeep limit 0 tokens.toList then .error .tooDeep
      else
        match document tokens.toList with
        | none => .error .malformed
        | some tree => tree.value
  else .error .malformed

end Accord.Yaml
