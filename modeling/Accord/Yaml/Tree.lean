import Accord.Yaml.Indentation
import Accord.Yaml.Tag

/-!
# `Accord.Yaml.Tree`: from tokens to trees

A document is a tree of scalars, sequences and mappings with their tags. Each reader takes the
tokens that are left and gives a part of the tree; a reader with fuel calls the others with less
of it. A name given to a node by an anchor stands for that node wherever an alias uses it later.
Inside the node itself it stands for an empty node of the same sort, since a tree cannot hold
itself.
-/

set_option autoImplicit false

namespace Accord.Yaml

/-- A tree. -/
inductive Tree where
  | scalar (tag text : String)
  | sequence (tag : String) (items : List Tree)
  | mapping (tag : String) (entries : List (Tree × Tree))

/-- What a document says about tags, and the nodes that have a name. -/
structure Scope where
  /-- What the tag handles stand for. -/
  handles : List (String × String)
  /-- The named nodes, last one first. -/
  anchors : List (String × Tree)

/-- The tag handles that need not be declared. -/
def standardHandles : List (String × String) :=
  [("!", "!"), ("!!", standardLead)]

/-- Readers take tokens and may fail. -/
abbrev Reader := StateT (Scope × List Token) Option

namespace Reader

/-- The next token. -/
def peek : Reader (Option Token) := do
  return (← get).2.head?

/-- Drops the next token. -/
def skip : Reader Unit :=
  modify fun (scope, tokens) => (scope, tokens.drop 1)

/-- Drops the next token if it is a given one, and says whether it was. -/
def accept (token : Token) : Reader Bool := do
  if (← peek) == some token then
    skip
    return true
  else return false

/-- Whether the next token is one of a list. -/
def nextIn (tokens : List Token) : Reader Bool := do
  match ← peek with
  | some token => return tokens.contains token
  | none => return false

/-- Gives a name to a node. -/
def bind (anchor : Option String) (node : Tree) : Reader Unit :=
  match anchor with
  | none => return
  | some name => modify fun (scope, tokens) =>
      ({ scope with anchors := (name, node) :: scope.anchors }, tokens)

end Reader

/-- What stands before a node: its name and its tag. -/
structure Properties where
  anchor : Option String
  tag : Option String

/-- The text of a tag. -/
def resolveTag (handle : Option String) (suffix : String) : Reader String :=
  match handle with
  | none => return suffix
  | some handle => do
    let lead ← (← get).1.handles.lookup handle
    return lead ++ suffix

/-- A tag at the next token. -/
def tagProperty : Reader (Option String) := do
  match ← Reader.peek with
  | some (.tag handle suffix) =>
    Reader.skip
    return some (← resolveTag handle suffix)
  | _ => return none

/-- A name at the next token. A name is given once. -/
def anchorProperty : Reader (Option String) := do
  match ← Reader.peek with
  | some (.anchor name) =>
    Reader.skip
    if ((← get).1.anchors.lookup name).isSome then failure else return some name
  | _ => return none

/-- The name and the tag at the next tokens, in either order. -/
def properties : Reader Properties := do
  let anchor ← anchorProperty
  let tag ← tagProperty
  -- The name may stand in front of the tag or behind it.
  match anchor with
  | some _ => return ⟨anchor, tag⟩
  | none => return ⟨← anchorProperty, tag⟩

/-- The tag of a scalar: the one that is given, or what a plain text looks like. A lone exclamation
mark asks for the latter too. -/
def scalarTag (tag : Option String) (isPlain : Bool) (text : String) : String :=
  match tag with
  | some "!" => plainTag text
  | some tag => tag
  | none => if isPlain then plainTag text else textTag

/-- The tag of a sequence or a mapping. -/
def collectionTag (tag : Option String) (standard : String) : String :=
  match tag with
  | some "!" => standard
  | some tag => tag
  | none => standard

/-- The node where nothing is written. -/
def emptyNode : Tree :=
  .scalar nullTag ""

mutual

/-- A node. A block may open one where `inBlock` holds, and where `indentless` holds a sequence need
not be indented. -/
def node (inBlock indentless : Bool) : Nat → Reader Tree
  | 0 => failure
  | fuel + 1 => do
    match ← Reader.peek with
    | some (.alias name) =>
      Reader.skip
      (← get).1.anchors.lookup name
    | _ =>
      let given ← properties
      content inBlock indentless given fuel

/-- A node behind its name and its tag. -/
def content (inBlock indentless : Bool) (given : Properties) : Nat → Reader Tree
  | 0 => failure
  | fuel + 1 => do
    let sequence (items : Reader (List Tree)) : Reader Tree := do
      let tag := collectionTag given.tag sequenceTag
      -- The name stands for an empty node while the items are read.
      Reader.bind given.anchor (.sequence tag [])
      let found := Tree.sequence tag (← items)
      Reader.bind given.anchor found
      return found
    let mapping (entries : Reader (List (Tree × Tree))) : Reader Tree := do
      let tag := collectionTag given.tag mappingTag
      Reader.bind given.anchor (.mapping tag [])
      let found := Tree.mapping tag (← entries)
      Reader.bind given.anchor found
      return found
    match ← Reader.peek with
    | some (.scalar isPlain text) =>
      Reader.skip
      let found := Tree.scalar (scalarTag given.tag isPlain text) text
      Reader.bind given.anchor found
      return found
    | some .flowSequenceStart =>
      Reader.skip
      sequence (flowItems true fuel)
    | some .flowMappingStart =>
      Reader.skip
      mapping (flowEntries true fuel)
    | next =>
      if indentless && next == some .blockEntry then sequence (indentlessItems fuel)
      else if inBlock && next == some .blockSequenceStart then
        Reader.skip
        sequence (blockItems fuel)
      else if inBlock && next == some .blockMappingStart then
        Reader.skip
        mapping (blockEntries fuel)
      -- A name or a tag alone makes an empty scalar.
      else if given.anchor.isSome || given.tag.isSome then
        let found := Tree.scalar (scalarTag given.tag true "") ""
        Reader.bind given.anchor found
        return found
      else failure

/-- The items of a block sequence, up to its end. -/
def blockItems : Nat → Reader (List Tree)
  | 0 => failure
  | fuel + 1 => do
    if ← Reader.accept .blockEntry then
      let item ←
        if ← Reader.nextIn [.blockEntry, .blockEnd] then pure emptyNode else node true false fuel
      return item :: (← blockItems fuel)
    else if ← Reader.accept .blockEnd then return []
    else failure

/-- The items of a sequence that is not indented, up to something else. -/
def indentlessItems : Nat → Reader (List Tree)
  | 0 => failure
  | fuel + 1 => do
    if ← Reader.accept .blockEntry then
      let item ←
        if ← Reader.nextIn [.blockEntry, .key, .value, .blockEnd] then pure emptyNode
        else node true false fuel
      return item :: (← indentlessItems fuel)
    else return []

/-- The entries of a block mapping, up to its end. -/
def blockEntries : Nat → Reader (List (Tree × Tree))
  | 0 => failure
  | fuel + 1 => do
    if ← Reader.accept .key then
      let key ← blockPart fuel
      let value ← if ← Reader.accept .value then blockPart fuel else pure emptyNode
      return (key, value) :: (← blockEntries fuel)
    else if ← Reader.accept .blockEnd then return []
    else failure

/-- A key or a value of a block mapping. -/
def blockPart : Nat → Reader Tree
  | 0 => failure
  | fuel + 1 => do
    if ← Reader.nextIn [.key, .value, .blockEnd] then return emptyNode else node true true fuel

/-- The items of a sequence in brackets, up to the closing one. An item may be a single entry of a
mapping. -/
def flowItems (first : Bool) : Nat → Reader (List Tree)
  | 0 => failure
  | fuel + 1 => do
    if ← Reader.accept .flowSequenceEnd then return []
    else
      let separated ← if first then pure true else Reader.accept .flowEntry
      if !separated then failure
      if ← Reader.accept .flowSequenceEnd then return []
      else if ← Reader.accept .key then
        let key ← flowPart [.value, .flowEntry, .flowSequenceEnd] fuel
        let value ←
          if ← Reader.accept .value then flowPart [.flowEntry, .flowSequenceEnd] fuel
          else pure emptyNode
        return .mapping mappingTag [(key, value)] :: (← flowItems false fuel)
      else
        let item ← node false false fuel
        return item :: (← flowItems false fuel)

/-- The entries of a mapping in braces, up to the closing one. -/
def flowEntries (first : Bool) : Nat → Reader (List (Tree × Tree))
  | 0 => failure
  | fuel + 1 => do
    if ← Reader.accept .flowMappingEnd then return []
    else
      let separated ← if first then pure true else Reader.accept .flowEntry
      if !separated then failure
      if ← Reader.accept .flowMappingEnd then return []
      else if ← Reader.accept .key then
        let key ← flowPart [.value, .flowEntry, .flowMappingEnd] fuel
        let value ←
          if ← Reader.accept .value then flowPart [.flowEntry, .flowMappingEnd] fuel
          else pure emptyNode
        return (key, value) :: (← flowEntries false fuel)
      else
        let key ← node false false fuel
        return (key, emptyNode) :: (← flowEntries false fuel)

/-- A key or a value between brackets, which is left out before one of the given tokens. -/
def flowPart (ends : List Token) : Nat → Reader Tree
  | 0 => failure
  | fuel + 1 => do
    if ← Reader.nextIn ends then return emptyNode else node false false fuel

end

/-! ### Documents -/

/-- The directives before a document. Each thing is said once, and the version has to be one that is
known. -/
def directives (versionSeen : Bool) (handles : List (String × String)) :
    List Token → Option (List (String × String) × List Token)
  | .directive (.version major) :: rest =>
    -- A second directive of one kind is refused, as is another major version.
    if versionSeen || major ≠ 1 then none else directives true handles rest
  | .directive (.handle name lead) :: rest =>
    if (handles.lookup name).isSome then none
    else directives versionSeen ((name, lead) :: handles) rest
  | .directive .other :: rest => directives versionSeen handles rest
  | tokens => some (handles, tokens)

/-- The tree of a node at the start of the tokens, and the tokens after it. -/
def rootNode (handles : List (String × String)) (tokens : List Token) :
    Option (Tree × List Token) := do
  let (tree, _, rest) ← (node true false (4 * tokens.length + 4)).run (⟨handles, []⟩, tokens)
  return (tree, rest)

/-- Whether the tokens are at the end of a document that is opened by a marker. -/
def atDocumentEnd : List Token → Bool
  | [] | .directive _ :: _ | .documentStart :: _ | .documentEnd :: _ => true
  | _ => false

/-- The first document of the tokens, and the tokens after it. -/
def firstDocument (tokens : List Token) : Option (Tree × List Token) :=
  match tokens with
  | .directive _ :: _ | .documentStart :: _ => do
    let (handles, rest) ← directives false [] tokens
    match rest with
    | .documentStart :: rest =>
      if atDocumentEnd rest then return (emptyNode, rest)
      else rootNode (handles ++ standardHandles) rest
    | _ => none
  | _ => rootNode standardHandles tokens

/-- The tree of the only document of the tokens; no document counts as an empty one. -/
def document (tokens : List Token) : Option Tree :=
  if tokens.isEmpty then some emptyNode
  else do
    let (tree, rest) ← firstDocument tokens
    -- Markers of the end may follow, another document may not.
    if (rest.dropWhile (· == .documentEnd)).isEmpty then some tree else none

end Accord.Yaml
