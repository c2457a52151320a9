import Accord.Cli.Run
import Accord.Yaml.Library

/-!
# `Accord.Main`: the program

The files that a run may read are read into a tree before the run, which then sees nothing else.
That happens twice: the settings, which are known after the first time, may name further files.
Links to folders are not followed, and a file that cannot be read is left out.
-/

set_option autoImplicit false

open Accord.Files (Path Tree Workspace)

/-- Reads a file into a tree. -/
def addFile (tree : Tree) (file : String) : IO Tree := do
  let octets ← IO.FS.readBinFile file
  return tree.insertFile (Path.ofText file).names octets.toList

/-- Reads the files below a folder into a tree. -/
partial def addFolder (tree : Tree) (folder : String) : IO Tree := do
  let mut known := tree.insertFolder (Path.ofText folder).names
  for entry in ← ((← IO.currentDir) / folder).readDir do
    let child := folder ++ "/" ++ entry.fileName
    try
      match (← entry.path.symlinkMetadata).type with
      | .dir => known ← addFolder known child
      | _ => known ← addFile known child
    catch _ => pure ()
  return known

/-- Reads what a path leads to into a tree. -/
def addPath (tree : Tree) (path : Path) : IO Tree := do
  try
    let place ← IO.FS.realPath ((← IO.currentDir) / path.text)
    if ← place.isDir then addFolder tree place.toString else addFile tree place.toString
  catch _ => return tree

/-- The stack that the program runs on leaves room for so many arrays and objects inside each
other. -/
instance : Accord.Json.Nesting :=
  ⟨980⟩

/-- The library for settings files, with room for as many nodes inside each other as the stack
has. -/
def library : Accord.Settings.Library Accord.Yaml.Value :=
  Accord.Yaml.library 480

/-- Runs the program in the folder that it is started in. -/
def main (arguments : List String) : IO UInt32 := do
  let here := (Path.ofText (← IO.currentDir).toString).names
  let mut workspace : Workspace := ⟨Tree.empty.insertFolder here, here⟩
  for _ in [(), ()] do
    for path in Accord.Cli.mentioned library workspace arguments do
      workspace := { workspace with tree := ← addPath workspace.tree path }
  let outcome := Accord.Cli.run library workspace arguments
  IO.print outcome.output
  IO.eprint outcome.errorText
  return outcome.status.toUInt32
