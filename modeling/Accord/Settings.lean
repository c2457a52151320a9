import Accord.Calls
import Accord.Sources

/-!
# `Accord.Settings`: the settings file

A settings file is a YAML mapping. It may name the three inputs of a run, the names that calls
are recognised by and which files count; what it leaves out has its standard value. A relative
path in the file starts at the folder of the file. `load` reads a file that is named, `find` the
one in a folder, if there is one.

Reading YAML and checking the entries of a mapping against the fields of `Settings` are left to
others: a `Library` holds one function for each, and everything in this module is stated for any
library.
-/

set_option autoImplicit false

namespace Accord

open Files (AccessCause Path Workspace accessMessage)

/-- The settings of a run. -/
structure Settings where
  /-- Where the sources with calls are. -/
  requests : Option Path
  /-- Where the sources with type declarations are. -/
  types : Option Path
  /-- Where the collection is. -/
  collection : Option Path
  /-- The names that calls are recognised by. -/
  names : Calls.Names
  /-- Which files below a folder count. -/
  filter : Sources.Filter
  deriving DecidableEq, Repr

namespace Settings

/-- The settings when nothing is said. -/
def standard : Settings :=
  ⟨none, none, none, .standard, .standard⟩

/-! ### What is left to a library -/

/-- A value in a settings file. All that the settings ask of it is whether it is null or a text;
what else a library makes is kept as it is. -/
inductive Value (Other : Type) where
  | null
  | text (text : String)
  | other (value : Other)
  deriving DecidableEq, Repr

/-- What a settings file holds. -/
inductive Document (Other : Type) where
  /-- Nothing, or null. -/
  | nothing
  /-- A mapping, as the names and the values of its entries. -/
  | mapping (entries : List (Value Other × Value Other))
  /-- A text, a list, or any other value that has no entries. -/
  | other
  deriving DecidableEq, Repr

/-- What a setting has to be and is not. -/
inductive Expected where
  | path
  | text
  | list
  deriving DecidableEq, Repr

/-- A setting that does not have the form it has to have. -/
structure Misfit where
  /-- The name of the setting, with the index of the item in a list. -/
  place : String
  /-- What has to stand there. -/
  expected : Expected
  deriving DecidableEq, Repr

/-- The refusal of entries. -/
structure Refusal where
  /-- What does not fit. -/
  misfits : List Misfit
  /-- How the refusal is put into words. -/
  wording : String
  deriving DecidableEq, Repr

/-- How a function of a library fails. -/
inductive Failure (ρ : Type) where
  /-- It refuses what it is given, which is what its documentation says it does. -/
  | refused (refusal : ρ)
  /-- It breaks off with an exception of another kind, and nobody catches that. -/
  | broken (kind : String)
  deriving DecidableEq, Repr

/-- The functions that loading a settings file leaves to others. -/
structure Library (Other : Type) where
  /-- Reads a YAML text. A refusal comes in words. -/
  parse : List Char → Except (Failure String) (Document Other)
  /-- Checks the entries of a mapping, and gives the settings that they spell. -/
  validate : List (String × Value Other) → Except (Failure Refusal) Settings

/-! ### Faults -/

/-- Why a settings file cannot be loaded. -/
inductive Fault where
  /-- The path leads to no file. -/
  | access (path : Path) (cause : AccessCause)
  /-- The octets of the file are no text. -/
  | octets (fault : Text.OctetFault)
  /-- The text is refused as YAML. -/
  | notYaml (path : Path) (wording : String)
  /-- Reading the YAML breaks off. -/
  | parsing (kind : String)
  /-- The value of the file is no mapping. -/
  | notMapping (path : Path)
  /-- An entry has a name that is no text. -/
  | nameNotText
  /-- The entries are refused. -/
  | invalid (path : Path) (refusal : Refusal)
  /-- Checking the entries breaks off. -/
  | validation (kind : String)
  deriving DecidableEq, Repr

/-- The wording of a fault, if it is one that is reported. -/
def Fault.message? : Fault → Option String
  | .access path cause => some s!"Cannot read config {path}: {accessMessage path cause}"
  | .notYaml path wording => some s!"Config {path} is not valid YAML: {wording}"
  | .notMapping path => some s!"Config {path} must be a mapping"
  | .invalid path refusal => some s!"Invalid config {path}: {refusal.wording}"
  | .octets _ | .parsing _ | .nameNotText | .validation _ => none

/-! ### Settings files -/

variable {Other : Type}

/-- The entries of a mapping under their names, if all of these are texts. -/
def named? : List (Value Other × Value Other) → Option (List (String × Value Other))
  | [] => some []
  | (.text name, value) :: rest => (named? rest).map ((name, value) :: ·)
  | (.null, _) :: _ | (.other _, _) :: _ => none

/-- The entries in a file; one that holds nothing has none. -/
def entriesOf (path : Path) : Document Other → Except Fault (List (String × Value Other))
  | .nothing => .ok []
  | .mapping entries =>
    match named? entries with
    | some named => .ok named
    -- Names are handed on as names of fields, which they have to be texts for.
    | none => .error .nameNotText
  | .other => .error (.notMapping path)

/-- The settings with their relative paths starting at a folder. -/
def under (folder : Path) (settings : Settings) : Settings :=
  { settings with
    requests := settings.requests.map folder.join
    types := settings.types.map folder.join
    collection := settings.collection.map folder.join }

/-- The settings that the entries of a file spell. -/
def ofEntries (library : Library Other) (path : Path) (entries : List (String × Value Other)) :
    Except Fault Settings :=
  match library.validate entries with
  | .ok settings => .ok (settings.under path.parent)
  | .error (.refused refusal) => .error (.invalid path refusal)
  | .error (.broken kind) => .error (.validation kind)

/-- The settings in the text of a file. -/
def ofText (library : Library Other) (path : Path) (text : List Char) : Except Fault Settings :=
  match library.parse text with
  | .ok document =>
    match entriesOf path document with
    | .ok entries => ofEntries library path entries
    | .error fault => .error fault
  | .error (.refused wording) => .error (.notYaml path wording)
  -- Only refusals are caught; everything else goes on to the caller.
  | .error (.broken kind) => .error (.parsing kind)

/-- The settings in a file. -/
def load (library : Library Other) (workspace : Workspace) (path : Path) : Except Fault Settings :=
  match workspace.readText path with
  | .ok text => ofText library path text
  | .error (.access cause) => .error (.access path cause)
  | .error (.octets fault) => .error (.octets fault)

/-- The name of the settings file that is looked for. -/
def fileName : String :=
  "api-contract-lint.yaml"

/-- The settings in the file of that name in a folder, and the standard ones if there is none. If no
folder is given it is the one that relative paths start at. -/
def find (library : Library Other) (workspace : Workspace) (folder : Option Path) :
    Except Fault Settings :=
  -- The folder is only joined with, so a file there is told from a missing one by its path.
  let path := (folder.getD ⟨.root, workspace.here⟩).join ⟨.here, [fileName]⟩
  if workspace.isFile path then load library workspace path else .ok standard

end Settings

end Accord
