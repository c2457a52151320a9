import Accord.Cli.Run
import Accord.Proofs.Settings

/-!
# `Accord.Proofs.Cli.Settings`: runs and the faults of their settings

A run loads settings when its arguments ask for a command (`Asks`); `run_of_asks` says what the
run is then. No command ends in a settings fault of its own, so that a run ends in one exactly
when the settings file that it asks for cannot be loaded (`ending_eq_settingsFault_iff`). With a
file of plain contents a run `Settles`: it goes on with the settings or ends with a message. All
of this is for any library that does what its documentation says
(`Settings.Library.Documented`).
-/

set_option autoImplicit false

namespace Accord.Cli

open Files (Path Workspace)

variable {Other : Type} {library : Settings.Library Other} {isYaml : List Char → Prop}
  {workspace : Workspace} {arguments : List String} {group : Reading} {command : Command}
  {order : Order} {fault : Settings.Fault}

/-! ### The file of a run -/

/-- The settings file of a run: the one that is named, or the one that is looked for if it is
there. -/
def Order.settingsPath? (workspace : Workspace) (order : Order) : Option Path :=
  let standard : Path := ⟨.root, workspace.here ++ [Settings.fileName]⟩
  (order.path? .config).or (if workspace.isFile standard then some standard else none)

/-- A run has the settings of its file, and the standard ones if there is none. -/
theorem settings_eq : settings library workspace order =
    match order.settingsPath? workspace with
    | some path => Settings.load library workspace path
    | none => .ok .standard := by
  rw [settings, Order.settingsPath?]
  cases order.path? .config with
  | some path => rfl
  | none =>
    have joined : (⟨.root, workspace.here⟩ : Path).join ⟨.here, [Settings.fileName]⟩ =
        ⟨.root, workspace.here ++ [Settings.fileName]⟩ := rfl
    simp only [Settings.find, Option.getD_none, joined, Option.none_or]
    split <;> rfl

/-- The settings of an order fail exactly when the order names a file and the file cannot be loaded.
-/
theorem settings_eq_error_iff : settings library workspace order = .error fault ↔
    ∃ path, order.settingsPath? workspace = some path ∧
      Settings.load library workspace path = .error fault := by
  rw [settings_eq]
  cases order.settingsPath? workspace <;> simp

/-! ### Runs that load settings -/

/-- The arguments ask for a command: the group and the command take them, and not for a usage. -/
structure Asks (workspace : Workspace) (arguments : List String) (group : Reading)
    (command : Command) (order : Order) : Prop where
  given : Reading.of .group arguments = .ok group
  noUsage : group.has .help = false
  named : ∃ name rest, group.operands = name :: rest ∧
    Command.all.find? (fun command => command.name == name) = some command ∧
    Reading.of (.command command) rest = .ok order.reading
  noCommandUsage : order.reading.has .help = false
  checked : check workspace command order.reading = .ok order

/-- The answer of a command: it loads its settings and runs. -/
def answer [Json.Nesting] (library : Settings.Library Other) (workspace : Workspace)
    (command : Command) (order : Order) : Answer :=
  match settings library workspace order with
  | .error fault => ⟨"", [], .settingsFault fault⟩
  | .ok settings => runCommand workspace settings order command

/-- The outcome of a run with an answer of a command. -/
def Answer.outcome (answer : Answer) (group : Reading) : Outcome :=
  ⟨group.has .verbose, answer.output, answer.events, answer.ending⟩

/-- The run of a command. -/
theorem run_of_asks [Json.Nesting] (asks : Asks workspace arguments group command order) :
    run library workspace arguments = (answer library workspace command order).outcome group := by
  obtain ⟨name, rest, operands, found, reading⟩ := asks.named
  -- Without arguments there are no operands, so that no command is named.
  have nonempty : arguments.isEmpty = false := by
    cases arguments with
    | nil =>
      cases asks.given
      cases operands
    | cons argument more => rfl
  have answered :
      runGroup library workspace group.operands = answer library workspace command order := by
    rw [operands, runGroup, found]
    simp only [runArguments, reading, asks.noCommandUsage, asks.checked, answer]
    rfl
  simp only [run, nonempty, asks.given, asks.noUsage, answered, Bool.false_eq_true, if_false]
  rfl

/-- What is checked is what is read. -/
theorem reading_of_check {reading : Reading}
    (checked : check workspace command reading = .ok order) : order.reading = reading := by
  unfold check at checked
  split at checked
  · cases checked
  · split at checked
    · cases checked
    · cases checked
      rfl

/-- A list ends well, or as the fault of its stage makes it end. -/
theorem ofListing_ending_ne {ε α : Type} {report : Report ε α} {write : α → String}
    {ending : ε → Ending} (other : ∀ own, ending own ≠ .settingsFault fault) :
    (ofListing report write ending).ending ≠ .settingsFault fault := by
  unfold ofListing
  split
  · nofun
  · exact other _

/-- No command ends in a settings fault. -/
theorem runCommand_ending_ne [Json.Nesting] (settings : Settings) :
    (runCommand workspace settings order command).ending ≠ .settingsFault fault := by
  cases command with
  | check =>
    rw [runCommand, runCheck]
    split
    · nofun
    · dsimp only
      split <;> nofun
  | endpoints => exact ofListing_ending_ne nofun
  | types => exact ofListing_ending_ne nofun

/-- An order that was checked ends in a settings fault exactly when its settings fail: no command
ends so by itself. -/
theorem answer_ending_iff [Json.Nesting] :
    (answer library workspace command order).ending = .settingsFault fault ↔
      settings library workspace order = .error fault := by
  rw [answer]
  cases settings library workspace order with
  | error own => simp
  | ok settings => simp [runCommand_ending_ne]

/-- The arguments that no command takes do not end in a settings fault. -/
theorem unknownCommand_ending_ne (name : String) :
    (unknownCommand name arguments).ending ≠ .settingsFault fault := by
  unfold unknownCommand
  dsimp only
  split
  · nofun
  · split <;> nofun

/-- The arguments of a command end in a settings fault when they ask for a run of it and its
settings cannot be loaded. -/
theorem runArguments_ending_iff [Json.Nesting] :
    (runArguments library workspace command arguments).ending = .settingsFault fault ↔
      ∃ order, Reading.of (.command command) arguments = .ok order.reading ∧
        order.reading.has .help = false ∧ check workspace command order.reading = .ok order ∧
        settings library workspace order = .error fault := by
  constructor
  · intro ending
    -- Of the ways to end, only the answer to a checked order can be a settings fault.
    unfold runArguments at ending
    dsimp only at ending
    split at ending
    · cases ending
    · next reading read =>
      split at ending
      · cases ending
      · next noUsage =>
        split at ending
        · cases ending
        · next order checked =>
          obtain rfl := reading_of_check checked
          exact ⟨order, read, by simpa using noUsage, checked, answer_ending_iff.1 ending⟩
  · rintro ⟨order, read, noUsage, checked, failed⟩
    simp only [runArguments, read, noUsage, checked, failed]
    rfl

/-- Of the operands of the group only a command with its arguments ends in a settings fault. -/
theorem runGroup_ending_iff [Json.Nesting] {operands : List String} :
    (runGroup library workspace operands).ending = .settingsFault fault ↔
      ∃ name rest command, operands = name :: rest ∧
        Command.all.find? (fun command => command.name == name) = some command ∧
        (runArguments library workspace command rest).ending = .settingsFault fault := by
  constructor
  · intro ending
    unfold runGroup at ending
    split at ending
    · cases ending
    · next name rest =>
      split at ending
      · next command found => exact ⟨name, rest, command, rfl, found, ending⟩
      · exact absurd ending (unknownCommand_ending_ne name)
  · rintro ⟨name, rest, command, rfl, found, ending⟩
    simpa only [runGroup, found] using ending

/-- **A run ends in a settings fault** exactly when it is asked for a command and the settings
of the command cannot be loaded. -/
theorem ending_eq_settingsFault_iff [Json.Nesting] :
    (run library workspace arguments).ending = .settingsFault fault ↔
      ∃ group command order, Asks workspace arguments group command order ∧
        settings library workspace order = .error fault := by
  constructor
  · intro ending
    -- No group and the usage of the group end otherwise, so the arguments reach a command.
    unfold run at ending
    split at ending
    · cases ending
    · split at ending
      · cases ending
      · next group given =>
        split at ending
        · cases ending
        · next noUsage =>
          obtain ⟨name, rest, command, operands, found, ending⟩ := runGroup_ending_iff.1 ending
          obtain ⟨order, read, noCommandUsage, checked, failed⟩ :=
            runArguments_ending_iff.1 ending
          exact ⟨group, command, order, ⟨given, by simpa using noUsage,
            ⟨name, rest, operands, found, read⟩, noCommandUsage, checked⟩, failed⟩
  · rintro ⟨group, command, order, asks, failed⟩
    rw [run_of_asks asks]
    exact answer_ending_iff.2 failed

/-! ### What becomes of settings -/

/-- What a run makes of its settings. -/
inductive Settles [Json.Nesting] (library : Settings.Library Other) (workspace : Workspace)
    (arguments : List String) (group : Reading) (command : Command) (order : Order) : Prop
  /-- The settings are loaded, and the run is what the command makes of them. -/
  | loaded (found : Settings) (valid : settings library workspace order = .ok found)
      (goesOn : run library workspace arguments =
        (runCommand workspace found order command).outcome group)
      (passed : ∀ fault, (run library workspace arguments).ending ≠ .settingsFault fault)
  /-- The settings cannot be loaded, and the run ends with a message that says why. -/
  | reported (fault : Settings.Fault) (message : String)
      (failed : settings library workspace order = .error fault)
      (wording : fault.message? = some message)
      (ends : (run library workspace arguments).ending = .settingsFault fault)
      (errorText : (run library workspace arguments).errorText = s!"Error: {message}\n")
      (status : (run library workspace arguments).status = 1)

/-- The fault of a run is reported if the contents of its file are plain. -/
theorem exists_message_of_settings (documented : library.Documented isYaml)
    (plain : ∀ path octets, order.settingsPath? workspace = some path →
      workspace.read path = .ok octets → Settings.Plain library octets)
    (failed : settings library workspace order = .error fault) :
    ∃ message, fault.message? = some message := by
  obtain ⟨path, file, failed⟩ := settings_eq_error_iff.1 failed
  cases found : workspace.read path with
  | error cause =>
    rw [Settings.load_of_read_error found] at failed
    cases failed
    exact ⟨_, rfl⟩
  | ok octets =>
    exact Settings.exists_message_of_plain documented found (plain path octets file found) failed

/-- The run of a command settles its settings if the contents of its file are plain. -/
theorem settles_of_asks [Json.Nesting] (documented : library.Documented isYaml)
    (asks : Asks workspace arguments group command order)
    (plain : ∀ path octets, order.settingsPath? workspace = some path →
      workspace.read path = .ok octets → Settings.Plain library octets) :
    Settles library workspace arguments group command order := by
  cases loaded : settings library workspace order with
  | ok found =>
    have goesOn : run library workspace arguments =
        (runCommand workspace found order command).outcome group := by
      rw [run_of_asks asks, answer, loaded]
    refine .loaded found loaded goesOn fun fault => ?_
    rw [goesOn]
    exact runCommand_ending_ne found
  -- A fault has a message because the contents are plain, and the message is all the run prints.
  | error fault =>
    have ends : run library workspace arguments =
        ⟨group.has .verbose, "", [], .settingsFault fault⟩ := by
      rw [run_of_asks asks, answer, loaded]
      rfl
    obtain ⟨message, wording⟩ := exists_message_of_settings documented plain loaded
    refine .reported fault message loaded wording (by rw [ends]) ?_ (by rw [ends]; rfl)
    rw [ends]
    simp [Outcome.errorText, Outcome.shown, Ending.errorText, wording, faultText]

/-- **Settings are loaded or the run says why not**, as long as the contents of the file are
plain. The paths of loaded settings lead where the file has them. A fault without a message
comes from what `Settings.Escapes` lists and from nothing else, and the runs that end in a fault
are those that ask for a command whose file has one. -/
theorem settings_load_or_are_reported [Json.Nesting] (documented : library.Documented isYaml)
    (workspace : Workspace) :
    (∀ path octets, workspace.read path = .ok octets →
      (∀ found, Settings.load library workspace path = .ok found →
        ∃ entries, Settings.Lists library octets entries ∧
          Settings.Follows path.parent entries found) ∧
      (∀ fault, Settings.Escapes library isYaml octets fault ↔
        Settings.load library workspace path = .error fault ∧ fault.message? = none) ∧
      (Settings.Plain library octets → ∀ fault,
        Settings.load library workspace path = .error fault →
        ∃ message, fault.message? = some message)) ∧
    (∀ arguments fault, (run library workspace arguments).ending = .settingsFault fault ↔
      ∃ group command order path, Asks workspace arguments group command order ∧
        order.settingsPath? workspace = some path ∧
        Settings.load library workspace path = .error fault) ∧
    ∀ arguments group command order, Asks workspace arguments group command order →
      (∀ path octets, order.settingsPath? workspace = some path →
        workspace.read path = .ok octets → Settings.Plain library octets) →
      Settles library workspace arguments group command order := by
  refine ⟨fun path octets found => ⟨?_, ?_, ?_⟩, ?_, ?_⟩
  · intro settings loaded
    exact Settings.exists_follows_of_load documented found loaded
  · intro fault
    exact Settings.escapes_iff documented found
  · intro plain fault failed
    exact Settings.exists_message_of_plain documented found plain failed
  · intro arguments fault
    rw [ending_eq_settingsFault_iff]
    constructor
    · rintro ⟨group, command, order, asks, failed⟩
      obtain ⟨path, file, failed⟩ := settings_eq_error_iff.1 failed
      exact ⟨group, command, order, path, asks, file, failed⟩
    · rintro ⟨group, command, order, path, asks, file, failed⟩
      exact ⟨group, command, order, asks, settings_eq_error_iff.2 ⟨path, file, failed⟩⟩
  · intro arguments group command order asks plain
    exact settles_of_asks documented asks plain

/-! ### Runs with a file -/

section Runs

/-- Collections may be nested eight deep. -/
local instance runsNesting : Json.Nesting :=
  ⟨8⟩

/-- The value of an entry: what is all digits is a number, anything else a text. -/
def lineValue (written : List Char) : Settings.Value Nat :=
  if written.all Char.isDigit then .other ((Number.natural? written).getD 0)
  else .text (String.ofList written)

/-- The entry of a file that is one line, a name with a colon and a blank and a value behind it. -/
def entryOfLine? (text : List Char) : Option (Settings.Value Nat × Settings.Value Nat) :=
  match text.dropWhile (· != ':') with
  | ':' :: ' ' :: rest =>
    some (.text (String.ofList (text.takeWhile (· != ':'))),
      lineValue (rest.takeWhile (· != '\n')))
  | _ => none

/-- The path of the first text under a name. -/
def pathUnder (entries : List (String × Settings.Value Nat)) (name : String) : Option Path :=
  entries.findSome? fun entry =>
    match entry with
    | (found, .text text) => if found = name then some (Path.ofText text) else none
    | _ => none

/-- The misfits of entries, of which every one should be null or a text. -/
def numbersIn (entries : List (String × Settings.Value Nat)) : List Settings.Misfit :=
  entries.filterMap fun entry =>
    match entry.2 with
    | .other _ => some ⟨entry.1, .path⟩
    | .null | .text _ => none

/-- A small library: it reads files of one line, and it knows the three fields for paths. -/
def lineLibrary : Settings.Library Nat where
  parse text :=
    match entryOfLine? text with
    | some entry => .ok (.mapping [entry])
    | none => .error (.refused "expected a name and a value")
  validate entries :=
    if (numbersIn entries).isEmpty then
      .ok { Settings.standard with
        requests := pathUnder entries "requests"
        types := pathUnder entries "types"
        collection := pathUnder entries "collection" }
    else .error (.refused ⟨numbersIn entries, s!"{(numbersIn entries).length} validation error"⟩)

/-- What is under a name is what the entries name, if no entry is a number. -/
theorem names_pathUnder {entries : List (String × Settings.Value Nat)} (name : String)
    (fits : numbersIn entries = []) : Settings.Names entries name (pathUnder entries name) := by
  cases under : pathUnder entries name with
  | none =>
    refine .nothing fun value member => ?_
    have passed := List.findSome?_eq_none_iff.1 under _ member
    have noNumber := List.filterMap_eq_nil_iff.1 fits _ member
    cases value with
    | null => rfl
    | text text => simp at passed
    | other number => simp at noNumber
  | some path =>
    obtain ⟨⟨found, value⟩, member, taken⟩ := List.exists_of_findSome?_eq_some under
    cases value with
    | text text =>
      obtain ⟨rfl, rfl⟩ : found = name ∧ Path.ofText text = path := by simpa using taken
      exact .text member
    | null => cases taken
    | other number => cases taken

/-- The library of one-line settings keeps what is asked of a library: it never breaks off, and
without a number it names what the line names. -/
theorem documented_lineLibrary :
    lineLibrary.Documented fun text => (entryOfLine? text).isSome = true where
  parse_of_broken {text kind} broken := by
    dsimp only [lineLibrary] at broken
    split at broken <;> cases broken
  validate_ne_broken entries kind broken := by
    dsimp only [lineLibrary] at broken
    split at broken <;> cases broken
  names_of_validate {entries settings} valid := by
    dsimp only [lineLibrary] at valid
    split at valid
    next fits =>
      cases valid
      have none : numbersIn entries = [] := List.isEmpty_iff.1 fits
      exact ⟨names_pathUnder _ none, names_pathUnder _ none, names_pathUnder _ none⟩
    · cases valid

/-- A folder that holds a settings file with the octets. -/
def settingsWorkspace (octets : List UInt8) : Workspace :=
  ⟨Files.Tree.insertFile .empty ["lint.yaml"] octets, []⟩

/-- The arguments of a check with this file. -/
def checkArguments : List String :=
  ["check", "--config", "lint.yaml"]

/-- What the arguments say. -/
def checkOrder : Order :=
  ⟨⟨[(.config, "lint.yaml")], []⟩, none⟩

/-- The arguments `check` ask for a run of the check, whatever the file holds. -/
theorem asks_checkArguments (octets : List UInt8) :
    Asks (settingsWorkspace octets) checkArguments ⟨[], checkArguments⟩ .check checkOrder where
  given := rfl
  noUsage := rfl
  named := ⟨_, _, rfl, rfl, rfl⟩
  noCommandUsage := rfl
  checked := rfl

/-- A settings file that names a number where a path has to be. -/
def numberText : List Char :=
  "requests: 1\n".toList

/-- The octets of this file. -/
def numberOctets : List UInt8 :=
  numberText.flatMap String.utf8EncodeChar

/-- The octets of the witness are the text of its one line. -/
theorem reads_numberOctets : Settings.Reads numberOctets numberText :=
  ⟨numberText, rfl, rfl⟩

/-- The one line names a number as the requests. -/
theorem parse_numberText :
    lineLibrary.parse numberText = .ok (.mapping [(.text "requests", .other 1)]) := by
  rfl

/-- The octets of the witness are plain: they are text, the library reads it and its one name is a
text. -/
theorem plain_numberOctets : Settings.Plain lineLibrary numberOctets := by
  refine Settings.plain_of_reads reads_numberOctets ?_ ?_
  · intro kind broken
    rw [parse_numberText] at broken
    cases broken
  -- There is one entry, and its name is a text.
  · intro entries parses entry member
    rw [parse_numberText] at parses
    cases parses
    obtain rfl := List.mem_singleton.1 member
    exact ⟨"requests", rfl⟩

/-- The number is refused under the name it stands behind. -/
theorem load_numberOctets :
    Settings.load lineLibrary (settingsWorkspace numberOctets) (Path.ofText "lint.yaml") =
      .error (.invalid (Path.ofText "lint.yaml")
        ⟨[⟨"requests", .path⟩], "1 validation error"⟩) := by
  calc Settings.load lineLibrary (settingsWorkspace numberOctets) (Path.ofText "lint.yaml")
      = Settings.ofText lineLibrary (Path.ofText "lint.yaml") numberText :=
        Settings.load_of_reads rfl reads_numberOctets
    _ = Settings.ofEntries lineLibrary (Path.ofText "lint.yaml") [("requests", .other 1)] := by
        rw [Settings.ofText, parse_numberText]
        rfl
    _ = .error (.invalid (Path.ofText "lint.yaml")
          ⟨[⟨"requests", .path⟩], "1 validation error"⟩) := rfl

/-- A check with a file that names a number where a path has to be says so. -/
theorem run_numberOctets :
    lineLibrary.Documented (fun text => (entryOfLine? text).isSome = true) ∧
    (settingsWorkspace numberOctets).read (Path.ofText "lint.yaml") = .ok numberOctets ∧
    Settings.Plain lineLibrary numberOctets ∧
    Asks (settingsWorkspace numberOctets) checkArguments ⟨[], checkArguments⟩ .check checkOrder ∧
    (∃ fault message,
      Settings.load lineLibrary (settingsWorkspace numberOctets) (Path.ofText "lint.yaml") =
        .error fault ∧ fault.message? = some message) ∧
    (run lineLibrary (settingsWorkspace numberOctets) checkArguments).errorText =
      "Error: Invalid config lint.yaml: 1 validation error\n" ∧
    (run lineLibrary (settingsWorkspace numberOctets) checkArguments).status = 1 := by
  have asks := asks_checkArguments numberOctets
  obtain ⟨loads, -, settles⟩ :=
    settings_load_or_are_reported documented_lineLibrary (settingsWorkspace numberOctets)
  obtain ⟨-, -, reported⟩ := loads (Path.ofText "lint.yaml") numberOctets rfl
  obtain ⟨message, wording⟩ := reported plain_numberOctets _ load_numberOctets
  refine ⟨documented_lineLibrary, rfl, plain_numberOctets, asks,
    ⟨_, message, load_numberOctets, wording⟩, ?_⟩
  have settled := settles checkArguments _ .check checkOrder asks fun path octets file found => by
    cases file
    cases found
    exact plain_numberOctets
  have invalid := settings_eq_error_iff.2
    ⟨Path.ofText "lint.yaml", (rfl : checkOrder.settingsPath? _ = _), load_numberOctets⟩
  cases settled with
  | loaded found valid goesOn passed =>
    rw [invalid] at valid
    cases valid
  | reported fault message failed wording ends errorText status =>
    rw [invalid] at failed
    cases failed
    cases wording
    exact ⟨errorText, status⟩

/-- A check with a file that is no text ends in a fault that nothing is said about. -/
theorem run_undecodable : ∃ fault,
    Settings.load lineLibrary (settingsWorkspace [0xFF]) (Path.ofText "lint.yaml") =
      .error fault ∧
    fault.message? = none ∧
    (run lineLibrary (settingsWorkspace [0xFF]) checkArguments).ending = .settingsFault fault ∧
    (run lineLibrary (settingsWorkspace [0xFF]) checkArguments).errorText = "" := by
  have undecodable : Text.decode [0xFF] = .error ⟨0, 1, 0xFF, .invalidStart⟩ := by
    simp [Text.decode, Text.decodeFrom, Text.leadRule]
  have failed : Settings.load lineLibrary (settingsWorkspace [0xFF]) (Path.ofText "lint.yaml") =
      .error (.octets ⟨0, 1, 0xFF, .invalidStart⟩) :=
    Settings.load_of_decode_error rfl undecodable
  have ends : run lineLibrary (settingsWorkspace [0xFF]) checkArguments =
      ⟨false, "", [], .settingsFault (.octets ⟨0, 1, 0xFF, .invalidStart⟩)⟩ := by
    rw [run_of_asks (asks_checkArguments [0xFF]), answer, settings_eq_error_iff.2
      ⟨Path.ofText "lint.yaml", rfl, failed⟩]
    rfl
  exact ⟨_, failed, rfl, by rw [ends], by rw [ends]; rfl⟩

end Runs

end Accord.Cli
