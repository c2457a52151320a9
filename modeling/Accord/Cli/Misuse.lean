import Accord.Text.Escaped

/-!
# `Accord.Cli.Misuse`: commands, options and how they are misused

The program is a group of three commands. Arguments that do not fit are a `Misuse`; most of them
are reported with the usage line of the command, or of the group, that they were given to.
-/

set_option autoImplicit false

namespace Accord.Cli

/-- The name of the program. -/
def programName : String :=
  "api-contract-lint"

/-- The commands. -/
inductive Command where
  /-- Lints sources against a collection. -/
  | check
  /-- Lists the calls in sources. -/
  | endpoints
  /-- Lists the type declarations in sources. -/
  | types
  deriving DecidableEq, Repr

/-- All commands. -/
def Command.all : List Command :=
  [.check, .endpoints, .types]

/-- The name of a command. -/
def Command.name : Command → String
  | .check => "check"
  | .endpoints => "endpoints"
  | .types => "types"

/-- Whether a command takes a path. -/
def Command.takesPath : Command → Bool
  | .check => false
  | .endpoints | .types => true

/-- What arguments are given to. -/
inductive Scope where
  | group
  | command (command : Command)
  deriving DecidableEq, Repr

/-- The words that a scope is called by. -/
def Scope.path : Scope → String
  | .group => programName
  | .command taken => s!"{programName} {taken.name}"

/-- The usage line of a scope. -/
def Scope.usage : Scope → String
  | .group => s!"Usage: {programName} [OPTIONS] COMMAND [ARGS]..."
  | .command taken =>
    let operand := if taken.takesPath then " PATH" else ""
    s!"Usage: {programName} {taken.name} [OPTIONS]{operand}"

/-- The options. -/
inductive Flag where
  | verbose
  | help
  | requests
  | types
  | collection
  | config
  deriving DecidableEq, Repr

/-- The name of an option. -/
def Flag.long : Flag → String
  | .verbose => "--verbose"
  | .help => "--help"
  | .requests => "--requests"
  | .types => "--types"
  | .collection => "--collection"
  | .config => "--config"

/-- The letter that stands for an option. -/
def Flag.letter? : Flag → Option Char
  | .verbose => some 'v'
  | .requests => some 'r'
  | .types => some 't'
  | .collection => some 'c'
  | .help | .config => none

/-- Whether an option takes a value. -/
def Flag.takesValue : Flag → Bool
  | .verbose | .help => false
  | .requests | .types | .collection | .config => true

/-- Whether the value of an option has to be a path that leads to something. -/
def Flag.asksForExisting : Flag → Bool
  | .requests | .types | .config => true
  | .verbose | .help | .collection => false

/-- How a message calls an option. -/
def Flag.hint (flag : Flag) : String :=
  match flag.letter? with
  | some letter => s!"'-{letter}' / '{flag.long}'"
  | none => s!"'{flag.long}'"

/-- The options of a scope. -/
def Scope.flags : Scope → List Flag
  | .group => [.verbose, .help]
  | .command .check => [.requests, .types, .collection, .config, .help]
  | .command _ => [.config, .help]

/-- How arguments are misused. -/
inductive Misuse where
  /-- An option that there is not, and the names that are much like it. -/
  | unknownOption (name : String) (similar : List String)
  /-- An option at the end that takes a value. -/
  | valueMissing (name : String)
  /-- An option with a value that takes none. -/
  | valueRefused (name : String)
  /-- The path is left out. -/
  | pathMissing
  /-- There are more arguments than the command takes. -/
  | argumentsLeft (arguments : List String)
  /-- A path leads to nothing; `place` says which one it is. -/
  | noSuchPath (place path : String)
  /-- A command that there is not. -/
  | unknownCommand (name : String)
  /-- The command is left out. -/
  | commandMissing
  /-- One of the three inputs of a check is neither given nor set. -/
  | inputsMissing
  deriving DecidableEq, Repr

/-- The wording of a misuse. -/
def Misuse.message : Misuse → String
  | .unknownOption name [] => s!"No such option: {name}"
  | .unknownOption name [similar] => s!"No such option: {name} Did you mean {similar}?"
  | .unknownOption name similar =>
    s!"No such option: {name} (Possible options: " ++ String.intercalate ", " similar ++ ")"
  | .valueMissing name => s!"Option {Text.quoted name} requires an argument."
  | .valueRefused name => s!"Option {Text.quoted name} does not take a value."
  | .pathMissing => "Missing argument 'PATH'."
  | .argumentsLeft [argument] => s!"Got unexpected extra argument ({argument})"
  | .argumentsLeft arguments =>
    "Got unexpected extra arguments (" ++ String.intercalate " " arguments ++ ")"
  | .noSuchPath place path =>
    s!"Invalid value for {place}: Path {Text.quoted path} does not exist."
  | .unknownCommand name => s!"No such command {Text.quoted name}."
  | .commandMissing => "Missing command."
  | .inputsMissing =>
    "Please provide the required paths using the -r, -t, and -c options."

/-- Whether a misuse is reported without the usage line. -/
def Misuse.isBare : Misuse → Bool
  | .valueMissing _ | .valueRefused _ => true
  | _ => false

/-- What is reported of a misuse. -/
def Misuse.report (scope : Scope) (misuse : Misuse) : String :=
  let lead :=
    if misuse.isBare then ""
    else s!"{scope.usage}\nTry '{scope.path} --help' for help.\n\n"
  s!"{lead}Error: {misuse.message}\n"

end Accord.Cli
