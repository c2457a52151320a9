import Accord.Text.Pieces

/-!
# `Accord.Files.Path`: paths as they are written

A path says where it starts and which names lead on from there. Doubled slashes, slashes at the
end and names that are a single dot say nothing and are dropped, so `a/`, `./a` and `a` are one
path. Two dots stay: what they lead to depends on the file tree.
-/

set_option autoImplicit false

namespace Accord.Files

/-- Where a path starts. -/
inductive Anchor where
  /-- The folder that the program works in. -/
  | here
  /-- The top of the file tree. -/
  | root
  /-- The top of the file tree, written with two slashes. -/
  | doubleRoot
  deriving DecidableEq, Repr

/-- What a path with an anchor starts with. -/
def Anchor.text : Anchor → String
  | .here => ""
  | .root => "/"
  | .doubleRoot => "//"

/-- A path. -/
structure Path where
  /-- Where the path starts. -/
  anchor : Anchor
  /-- The names that lead on from there. -/
  names : List String
  deriving DecidableEq, Repr

/-- Whether a piece of a path says nothing. -/
def isIdle (piece : List Char) : Bool :=
  piece == [] || piece == ['.']

namespace Path

/-- The anchor of the path that a text writes. -/
def anchorOf (text : List Char) : Anchor :=
  match (text.takeWhile (· == '/')).length with
  | 0 => .here
  | 2 => .doubleRoot
  | _ => .root

/-- The path that a text writes. -/
def ofText (text : String) : Path :=
  let chars := text.toList
  ⟨anchorOf chars, ((Text.cut '/' chars).filter fun piece => !isIdle piece).map String.ofList⟩

/-- The text of a path. The folder that the program works in is a dot. -/
def text (path : Path) : String :=
  if path = ⟨.here, []⟩ then "." else path.anchor.text ++ String.intercalate "/" path.names

/-- Paths are shown as `Path.text` writes them. -/
instance : ToString Path :=
  ⟨text⟩

/-- Whether a path does not depend on the folder that the program works in. -/
def isAbsolute (path : Path) : Bool :=
  path.anchor ≠ .here

/-- The path that leads on from a first one; an absolute path stands for itself. -/
def join (path next : Path) : Path :=
  if next.isAbsolute then next else ⟨path.anchor, path.names ++ next.names⟩

/-- The path without its last name. -/
def parent (path : Path) : Path :=
  ⟨path.anchor, path.names.dropLast⟩

end Path

/-- Whether a text, read as a path, ends in a way that only a folder can: with a slash or with a
single dot. -/
def asksForFolder (text : String) : Bool :=
  ((Text.cut '/' text.toList).getLast?.map isIdle).getD false

end Accord.Files
