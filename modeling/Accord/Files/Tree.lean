import Accord.Files.Path
import Accord.Table
import Accord.Text.Escaped
import Accord.Text.Utf8

/-!
# `Accord.Files.Tree`: files and what a path leads to

A `Tree` holds files under locations. A location is the list of the names that lead to it from
the top; a folder is a location with a file or a folder below it, or one that is declared.
`locate` follows a path name by name: each step has to start in a folder, and two dots lead to
the folder above.
-/

set_option autoImplicit false

namespace Accord.Files

/-- Files under distinct locations, and folders that need not hold any. -/
structure Tree where
  /-- The octets of the files under their locations. -/
  files : List (List String × List UInt8)
  /-- Locations that are folders even if there is nothing below them. -/
  folders : List (List String)
  /-- No location holds two files. -/
  nodup : (Entries.keys files).Nodup

/-- Why a path leads to no file. -/
inductive AccessCause where
  /-- There is nothing. -/
  | missing
  /-- A name on the way is no folder. -/
  | notFolder
  /-- There is a folder. -/
  | isFolder
  deriving DecidableEq, Repr

/-- The number that systems give to a cause. -/
def AccessCause.number : AccessCause → Nat
  | .missing => 2
  | .notFolder => 20
  | .isFolder => 21

/-- The wording of a cause. -/
def AccessCause.text : AccessCause → String
  | .missing => "No such file or directory"
  | .notFolder => "Not a directory"
  | .isFolder => "Is a directory"

/-- Why a file cannot be read as text. -/
inductive TextFault where
  /-- The path leads to no file. -/
  | access (cause : AccessCause)
  /-- The octets of the file are no text. -/
  | octets (fault : Text.OctetFault)
  deriving DecidableEq, Repr

/-- The wording of a failed access to a path. -/
def accessMessage (path : Path) (cause : AccessCause) : String :=
  s!"[Errno {cause.number}] {cause.text}: {Text.quoted path.text}"

namespace Tree

/-- The tree without files. -/
def empty : Tree :=
  ⟨[], [], by simp [Entries.keys]⟩

/-- Writes a file. -/
def insertFile (tree : Tree) (location : List String) (octets : List UInt8) : Tree :=
  { tree with
    files := Entries.insert tree.files location octets
    nodup := Entries.nodup_keys_insert _ _ _ tree.nodup }

/-- Declares a folder. -/
def insertFolder (tree : Tree) (location : List String) : Tree :=
  { tree with folders := location :: tree.folders }

/-- The octets of the file at a location. -/
def file? (tree : Tree) (location : List String) : Option (List UInt8) :=
  Entries.get? tree.files location

/-- Whether a location is a folder. -/
def isFolder (tree : Tree) (location : List String) : Bool :=
  location.isEmpty || tree.folders.any (location.isPrefixOf ·) ||
    tree.files.any fun entry => location.isPrefixOf entry.1 && location != entry.1

/-- Follows names from a location on. -/
def follow (tree : Tree) : List String → List String → Except AccessCause (List String)
  | location, [] => .ok location
  | location, name :: rest =>
    if tree.isFolder location then
      follow tree (if name = ".." then location.dropLast else location ++ [name]) rest
    else .error (if (tree.file? location).isSome then .notFolder else .missing)

end Tree

/-- A file tree and the location in it that relative paths start at. -/
structure Workspace where
  tree : Tree
  here : List String

namespace Workspace

/-- Where a path starts. -/
def start (workspace : Workspace) (path : Path) : List String :=
  if path.isAbsolute then [] else workspace.here

/-- The location that a path leads to, which need not hold anything. -/
def locate (workspace : Workspace) (path : Path) : Except AccessCause (List String) :=
  workspace.tree.follow (workspace.start path) path.names

/-- The octets of the file that a path leads to. -/
def read (workspace : Workspace) (path : Path) : Except AccessCause (List UInt8) :=
  match workspace.locate path with
  | .error cause => .error cause
  | .ok location =>
    match workspace.tree.file? location with
    | some octets => .ok octets
    | none => .error (if workspace.tree.isFolder location then .isFolder else .missing)

/-- The characters of the file that a path leads to, with one line end for all. -/
def readText (workspace : Workspace) (path : Path) : Except TextFault (List Char) :=
  match workspace.read path with
  | .error cause => .error (.access cause)
  | .ok octets =>
    match Text.decode octets with
    | .error fault => .error (.octets fault)
    | .ok text => .ok (Text.unifyLines text)

/-- Whether a path leads to a file. -/
def isFile (workspace : Workspace) (path : Path) : Bool :=
  match workspace.read path with
  | .ok _ => true
  | .error _ => false

/-- The folder that a path leads to. -/
def folder? (workspace : Workspace) (path : Path) : Option (List String) :=
  match workspace.locate path with
  | .ok location => if workspace.tree.isFolder location then some location else none
  | .error _ => none

/-- Whether a text, taken as a path to the letter, leads to something: an empty text leads nowhere,
and a file has no slash behind it. -/
def holds (workspace : Workspace) (text : String) : Bool :=
  let path := Path.ofText text
  text ≠ "" && ((workspace.folder? path).isSome ||
    (workspace.isFile path && !asksForFolder text))

end Workspace

end Accord.Files
