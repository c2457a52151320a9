import Accord.Cli.Arguments
import Accord.Project

/-!
# `Accord.Cli.Run`: the commands

`run` takes the arguments of the program and a file tree and gives the outcome: what is written
to the output, what is noted on the way, and how the run ends. `Outcome.errorText` is what is
written to the error output, the notes first, and `Outcome.status` the number that the program
ends with.
-/

set_option autoImplicit false

namespace Accord.Cli

open Files (Path Workspace)

/-- How a run ends. -/
inductive Ending where
  /-- All is well. -/
  | success
  /-- There are findings. -/
  | findings (findings : List Lint.Finding)
  /-- The settings cannot be loaded. -/
  | settingsFault (fault : Settings.Fault)
  /-- A check gives no findings. -/
  | checkFault (fault : Project.Fault)
  /-- The types that a list is asked for cannot be told. -/
  | typesFault (fault : Types.Fault)
  /-- The arguments do not fit. -/
  | misuse (scope : Scope) (misuse : Misuse)
  /-- The usage is asked for, or nothing is given. -/
  | usage (scope : Scope) (asked : Bool)

/-- The outcome of a run. -/
structure Outcome where
  /-- Whether all notes are shown, and not only warnings. -/
  verbose : Bool
  /-- What is written to the output. -/
  output : String
  /-- What is noted on the way. -/
  events : List Event
  /-- How the run ends. -/
  ending : Ending

/-- The lines of findings, numbered from one on. -/
def findingLines (number : Nat) : List Lint.Finding → List String
  | [] => []
  | finding :: rest => s!"{number}. {finding.message}\n" :: findingLines (number + 1) rest

/-- What is reported of a fault; a fault without a message is not reported here. -/
def faultText : Option String → String
  | some message => s!"Error: {message}\n"
  | none => ""

/-- What the end of a run adds to the error output. -/
def Ending.errorText : Ending → String
  | .success => ""
  | .findings found => String.join (findingLines 1 found)
  | .settingsFault fault => faultText fault.message?
  | .checkFault fault => faultText fault.message?
  -- A list does not report a fault of its sources.
  | .typesFault _ => ""
  | .misuse scope found => found.report scope
  | .usage scope asked => if asked then "" else scope.usage ++ "\n"

/-- The number that says how a run ended. -/
def Ending.status : Ending → UInt8
  | .success => 0
  | .findings _ | .settingsFault _ | .checkFault _ | .typesFault _ => 1
  | .misuse _ _ => 2
  | .usage _ asked => if asked then 0 else 2

namespace Outcome

/-- The notes that are shown. -/
def shown (outcome : Outcome) : List Event :=
  outcome.events.filter fun event => outcome.verbose || event.level == .warning

/-- What is written to the error output. -/
def errorText (outcome : Outcome) : String :=
  String.join (outcome.shown.map fun event => event.line ++ "\n") ++ outcome.ending.errorText

/-- The number that the program ends with. -/
def status (outcome : Outcome) : UInt8 :=
  outcome.ending.status

end Outcome

/-! ### Checking paths -/

/-- Fails if a path that has to lead to something does not. -/
def checkPath (workspace : Workspace) (place path : String) : Except Misuse Unit :=
  if workspace.holds path then .ok () else .error (.noSuchPath place path)

/-- Fails at the first option whose path does not lead to something. -/
def checkFlags (workspace : Workspace) (reading : Reading) : List Flag → Except Misuse Unit
  | [] => .ok ()
  | flag :: rest =>
    match flag.asksForExisting, reading.value? flag with
    | true, some path =>
      match checkPath workspace flag.hint path with
      | .ok _ => checkFlags workspace reading rest
      | .error misuse => .error misuse
    | _, _ => checkFlags workspace reading rest

/-- The path of a command that takes one, and the arguments after it. -/
def checkOperands (workspace : Workspace) (command : Command) (operands : List String) :
    Except Misuse (Option Path) :=
  match command.takesPath, operands with
  | false, [] => .ok none
  | true, [] => .error .pathMissing
  | true, [path] =>
    match checkPath workspace "'PATH'" path with
    | .ok _ => .ok (some (Path.ofText path))
    | .error misuse => .error misuse
  -- The first path is checked before there are said to be too many.
  | true, path :: rest =>
    match checkPath workspace "'PATH'" path with
    | .ok _ => .error (.argumentsLeft rest)
    | .error misuse => .error misuse
  | false, operands => .error (.argumentsLeft operands)

/-- What a command is given: its options and its path. -/
structure Order where
  reading : Reading
  path : Option Path

/-- Checks what a command is given: first the options, then the path. -/
def check (workspace : Workspace) (command : Command) (reading : Reading) : Except Misuse Order :=
  match checkFlags workspace reading reading.flags with
  | .error misuse => .error misuse
  | .ok _ =>
    match checkOperands workspace command reading.operands with
    | .error misuse => .error misuse
    | .ok path => .ok ⟨reading, path⟩

/-- The path that an option names. -/
def Order.path? (order : Order) (flag : Flag) : Option Path :=
  (order.reading.value? flag).map Path.ofText

/-! ### Commands -/

variable {Other : Type}

/-- The settings of a run: those in the file that is named, or in the file that is looked for. -/
def settings (library : Settings.Library Other) (workspace : Workspace) (order : Order) :
    Except Settings.Fault Settings :=
  match order.path? .config with
  | some path => Settings.load library workspace path
  | none => Settings.find library workspace none

/-- The inputs of a check: what is given comes before what is set. -/
def inputs? (settings : Settings) (order : Order) : Option Project.Inputs := do
  let requests ← (order.path? .requests).or settings.requests
  let types ← (order.path? .types).or settings.types
  let collection ← (order.path? .collection).or settings.collection
  return ⟨requests, types, collection⟩

/-- What a command writes and notes, and how it ends. -/
structure Answer where
  output : String
  events : List Event
  ending : Ending

/-- Lints sources against a collection. -/
def runCheck [Json.Nesting] (workspace : Workspace) (settings : Settings) (order : Order) :
    Answer :=
  -- The settings are loaded by now, and may have named what the arguments do not.
  match inputs? settings order with
  | none => ⟨"", [], .misuse (.command .check) .inputsMissing⟩
  | some inputs =>
    let report := Project.lint workspace settings inputs
    match report.outcome with
    | .ok [] => ⟨"No linting errors found.\n", report.events, .success⟩
    | .ok findings => ⟨"", report.events, .findings findings⟩
    | .error fault => ⟨"", report.events, .checkFault fault⟩

/-- How a list shows a type reference. -/
def referenceText (reference : Option TypeReference) : String :=
  (reference.map TypeReference.text).getD "-"

/-- The line of a call. -/
def endpointLine (endpoint : CodeEndpoint) : String :=
  s!"{endpoint.method} {endpoint.path}  request={referenceText endpoint.requestBody}" ++
    s!"  response={referenceText endpoint.responseBody}\n"

/-- The line of a type declaration. -/
def definitionLine (definition : Types.Definition) : String :=
  let fields := String.intercalate ", " <|
    definition.properties.entries.map fun entry => s!"{entry.1}: {entry.2}"
  s!"{definition.kind.text} {definition.name} \x7b {fields} \x7d\n"

/-- What a list of so many entries writes. -/
def listing (lines : List String) (kind : String) : String :=
  String.join lines ++ s!"Found {lines.length} {kind}.\n"

/-- The answer of a stage that lists what it finds. -/
def ofListing {ε α : Type} (report : Report ε α) (write : α → String) (ending : ε → Ending) :
    Answer :=
  match report.outcome with
  | .ok found => ⟨write found, report.events, .success⟩
  | .error fault => ⟨"", report.events, ending fault⟩

/-- Runs a command. -/
def runCommand [Json.Nesting] (workspace : Workspace) (settings : Settings) (order : Order) :
    Command → Answer
  | .check => runCheck workspace settings order
  | .endpoints =>
    ofListing (Project.code workspace settings (order.path.getD (Path.ofText "")))
      (fun found => listing (found.map endpointLine) "endpoints") Empty.elim
  | .types =>
    ofListing (Project.types workspace settings (order.path.getD (Path.ofText "")))
      (fun registry => listing (registry.types.values.map definitionLine) "types") .typesFault

/-- Reads the arguments of a command and runs it. -/
def runArguments [Json.Nesting] (library : Settings.Library Other) (workspace : Workspace)
    (command : Command) (arguments : List String) : Answer :=
  let scope := Scope.command command
  match Reading.of scope arguments with
  | .error misuse => ⟨"", [], .misuse scope misuse⟩
  | .ok reading =>
    if reading.has .help then ⟨scope.usage ++ "\n", [], .usage scope true⟩
    else
      match check workspace command reading with
      | .error misuse => ⟨"", [], .misuse scope misuse⟩
      | .ok order =>
        match settings library workspace order with
        | .error fault => ⟨"", [], .settingsFault fault⟩
        | .ok settings => runCommand workspace settings order command

/-! ### The program -/

/-- What an unknown command comes to. A name that starts with a dash is first read as an option. -/
def unknownCommand (name : String) (arguments : List String) : Answer :=
  let reading : Except Misuse Reading :=
    -- The operands of the group start with a dash only behind a double dash.
    if name.toList.head? = some '-' then Reading.of .group (name :: arguments) else .ok ⟨[], []⟩
  match reading with
  | .error misuse => ⟨"", [], .misuse .group misuse⟩
  | .ok reading =>
    if reading.has .help then ⟨Scope.group.usage ++ "\n", [], .usage .group true⟩
    else ⟨"", [], .misuse .group (.unknownCommand name)⟩

/-- Runs the command that the operands of the group name. -/
def runGroup [Json.Nesting] (library : Settings.Library Other) (workspace : Workspace) :
    List String → Answer
  | [] => ⟨"", [], .misuse .group .commandMissing⟩
  | name :: arguments =>
    match Command.all.find? fun command => command.name == name with
    | some command => runArguments library workspace command arguments
    | none => unknownCommand name arguments

/-- Runs the program. -/
def run [Json.Nesting] (library : Settings.Library Other) (workspace : Workspace)
    (arguments : List String) : Outcome :=
  if arguments.isEmpty then ⟨false, "", [], .usage .group false⟩
  else
    match Reading.of .group arguments with
    | .error misuse => ⟨false, "", [], .misuse .group misuse⟩
    | .ok reading =>
      if reading.has .help then ⟨false, Scope.group.usage ++ "\n", [], .usage .group true⟩
      else
        let answer := runGroup library workspace reading.operands
        ⟨reading.has .verbose, answer.output, answer.events, answer.ending⟩

/-! ### What a run reads -/

/-- The paths that the arguments of a command name. -/
def Reading.paths (reading : Reading) : List Path :=
  ((reading.given.filter fun entry => entry.1.takesValue).map Prod.snd ++ reading.operands).map
    Path.ofText

/-- The paths that settings name. -/
def settingsPaths (library : Settings.Library Other) (workspace : Workspace)
    (reading : Reading) : List Path :=
  match settings library workspace ⟨reading, none⟩ with
  | .ok settings => [settings.requests, settings.types, settings.collection].filterMap id
  -- A fault comes up again in the run itself, which reports it.
  | .error _ => []

/-- The paths that a run may read: the settings file that is looked for, what the arguments
name, and what the settings name as far as they can be loaded. -/
def mentioned (library : Settings.Library Other) (workspace : Workspace)
    (arguments : List String) : List Path :=
  let standard : Path := ⟨.here, [Settings.fileName]⟩
  match Reading.of .group arguments with
  | .error _ => []
  | .ok group =>
    match group.operands with
    | [] => []
    | name :: rest =>
      match Command.all.find? fun command => command.name == name with
      | none => []
      | some command =>
        match Reading.of (.command command) rest with
        | .error _ => []
        | .ok reading => standard :: reading.paths ++ settingsPaths library workspace reading

end Accord.Cli
