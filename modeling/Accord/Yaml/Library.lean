import Accord.Settings
import Accord.Yaml.Value

/-!
# `Accord.Yaml.Library`: a library to run with

Settings files are read and checked by a `Settings.Library`, and what is stated of them is
stated for every library. `library` is the one that the program runs with. It reads YAML by
`Yaml.read`, and it checks the fields of `Settings` one by one; a field that is not there has
its standard value, and entries under other names are ignored.
-/

set_option autoImplicit false

namespace Accord.Yaml

open Files (Path)
open Settings (Misfit)

/-- The kind of exception that a fault breaks off with. A malformed text is refused instead. -/
def Fault.kind? : Fault → Option String
  | .malformed => none
  | .tooDeep => some "RecursionError"
  | .noBoolean => some "KeyError"
  | .noNumber | .unrealDate => some "ValueError"
  | .noCharacters => some "IndexError"
  | .noDate => some "AttributeError"
  | .dateOfMapping => some "TypeError"

/-- What settings see of a value. -/
def Value.seen : Value → Settings.Value Value
  | .null => .null
  | .text written => .text written
  | value => .other value

/-- What settings see of the value of a file. -/
def Value.document : Value → Settings.Document Value
  | .null => .nothing
  | .mapping entries => .mapping (entries.map fun entry => (entry.1.seen, entry.2.seen))
  | _ => .other

/-- Reads the text of a file. -/
def parse (limit : Nat) (text : List Char) :
    Except (Settings.Failure String) (Settings.Document Value) :=
  match read limit text with
  | .ok value => .ok value.document
  | .error fault =>
    match fault.kind? with
    | none => .error (.refused "it is malformed or holds more than plain data")
    | some kind => .error (.broken kind)

/-! ### Single settings -/

/-- The entries of a mapping under their names. -/
abbrev Entries := List (String × Settings.Value Value)

/-- The value of the last entry with a name. -/
def Entries.value? (entries : Entries) (name : String) : Option (Settings.Value Value) :=
  (entries.reverse.find? fun entry => entry.1 == name).map Prod.snd

/-- A setting and what is wrong with it. -/
structure Checked (α : Type) where
  value : α
  misfits : List Misfit

/-- A path that may be left out. -/
def pathSetting (entries : Entries) (name : String) : Checked (Option Path) :=
  match entries.value? name with
  | none | some .null => ⟨none, []⟩
  | some (.text text) => ⟨some (Path.ofText text), []⟩
  | some (.other _) => ⟨none, [⟨name, .path⟩]⟩

/-- A text. -/
def textSetting (entries : Entries) (name standard : String) : Checked String :=
  match entries.value? name with
  | none => ⟨standard, []⟩
  | some (.text text) => ⟨text, []⟩
  | some _ => ⟨standard, [⟨name, .text⟩]⟩

/-- The texts in a list, and a misfit for every other item; `index` is that of the first item. -/
def textItems (name : String) (index : Nat) : List Value → Checked (List String)
  | [] => ⟨[], []⟩
  | item :: rest =>
    let others := textItems name (index + 1) rest
    match item with
    | .text text => ⟨text :: others.value, others.misfits⟩
    | _ => ⟨others.value, ⟨s!"{name}.{index}", .text⟩ :: others.misfits⟩

/-- A list of texts. -/
def listSetting (entries : Entries) (name : String) (standard : List String) :
    Checked (List String) :=
  match entries.value? name with
  | none => ⟨standard, []⟩
  -- Every item is checked, so that all misfits are told at once.
  | some (.other (.sequence items)) => textItems name 0 items
  | some _ => ⟨standard, [⟨name, .list⟩]⟩

/-! ### The library -/

/-- The settings in the entries of a mapping, and what is wrong with them. -/
def checked (entries : Entries) : Checked Settings :=
  let requests := pathSetting entries "requests"
  let types := pathSetting entries "types"
  let collection := pathSetting entries "collection"
  let call := textSetting entries "call_name" Calls.Names.standard.call
  let serializer := textSetting entries "serializer" Calls.Names.standard.serializer
  let extensions := listSetting entries "extensions" Sources.Filter.standard.extensions
  let exclude := listSetting entries "exclude" Sources.Filter.standard.exclude
  { value :=
      { requests := requests.value
        types := types.value
        collection := collection.value
        names := ⟨call.value, serializer.value⟩
        filter := ⟨extensions.value, exclude.value⟩ }
    misfits := requests.misfits ++ types.misfits ++ collection.misfits ++ call.misfits ++
      serializer.misfits ++ extensions.misfits ++ exclude.misfits }

/-- The order of misfits: by place. -/
def misfitLe (first second : Misfit) : Bool :=
  decide (first.place ≤ second.place)

/-- Checks the entries of a mapping. -/
def validate (entries : Entries) : Except (Settings.Failure Settings.Refusal) Settings :=
  let found := checked entries
  if found.misfits.isEmpty then .ok found.value
  else
    -- The order makes the message depend on the entries alone.
    let misfits := found.misfits.mergeSort misfitLe
    .error (.refused ⟨misfits, String.intercalate ", " (misfits.map Misfit.place)⟩)

/-- The library that the program runs with, which has room for so many lists and mappings inside
each other. -/
def library (limit : Nat) : Settings.Library Value :=
  ⟨parse limit, validate⟩

end Accord.Yaml
