import Accord.Files.Tree
import Accord.SourceUnit

/-!
# `Accord.Sources`: the source files below a path

A path to a file names that file alone. A path to a folder names the files below it whose name
has one of the extensions and whose names on the way, counted from that folder and its own
included, are none of the excluded ones. They are read in the order of their locations, name by
name, so that what is below a folder `a` stands before `a.ts`. A file whose octets are no text
is noted and left out.
-/

set_option autoImplicit false

namespace Accord.Sources

open Files (Path Tree Workspace)

/-- Which files below a folder count. -/
structure Filter where
  /-- What the name of a file ends in. -/
  extensions : List String
  /-- The names of files and folders that are left out. -/
  exclude : List String
  deriving DecidableEq, Repr

/-- What counts when nothing else is said. -/
def Filter.standard : Filter :=
  ⟨[".ts", ".tsx"], ["node_modules"]⟩

/-- Whether a name ends in one of the extensions. -/
def Filter.hasExtension (filter : Filter) (name : String) : Bool :=
  filter.extensions.any fun extension => extension.toList.isSuffixOf name.toList

/-- Whether a file counts that the names lead to from the folder. -/
def Filter.admits (filter : Filter) (names : List String) : Bool :=
  (names.getLast?.map filter.hasExtension).getD false &&
    names.all fun name => !filter.exclude.contains name

/-- The names that lead from a folder to a location below it. -/
def below? : List String → List String → Option (List String)
  | [], [] => none
  | [], location => some location
  | _ :: _, [] => none
  | name :: folder, first :: location => if name = first then below? folder location else none

/-- The order of locations: name by name, each by code point. -/
def locationLe (first second : List String × List UInt8) : Bool :=
  decide (List.le first.1 second.1)

/-- The files below a folder that count, by the names that lead to them, in order. -/
def selected (tree : Tree) (filter : Filter) (folder : List String) :
    List (List String × List UInt8) :=
  (tree.files.filterMap fun entry => do
    -- Extensions and exclusions are asked of the names below the folder, not of the way to it.
    let names ← below? folder entry.1
    if filter.admits names then some (names, entry.2) else none).mergeSort locationLe

/-- The files that a path names, in order. -/
def named (workspace : Workspace) (filter : Filter) (path : Path) : List (Path × List UInt8) :=
  match workspace.read path with
  | .ok octets => [(path, octets)]
  -- Only a path that is no readable file is looked at as a folder.
  | .error _ =>
    match workspace.folder? path with
    | some folder =>
      (selected workspace.tree filter folder).map fun entry =>
        (⟨path.anchor, path.names ++ entry.1⟩, entry.2)
    | none => []

/-- The unit in a file, or a note that it is no text. -/
def unitOf {ε : Type} (file : Path × List UInt8) : Report ε (List SourceUnit) :=
  match Text.decode file.2 with
  -- Line ends are made one as the text is read.
  | .ok text => .ok [⟨file.1.text, String.ofList (Text.unifyLines text)⟩]
  | .error fault => ⟨[.sourceUndecodable file.1.text fault], .ok []⟩

/-- The units in the files that a path names. -/
def load {ε : Type} (workspace : Workspace) (filter : Filter) (path : Path) :
    Report ε (List SourceUnit) :=
  (Report.gather unitOf (named workspace filter path)).andThen fun units =>
    ⟨[.sourcesLoaded units.length path.text], .ok units⟩

end Accord.Sources
