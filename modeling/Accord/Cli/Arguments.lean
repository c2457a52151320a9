import Accord.Cli.Misuse
import Accord.Text.Similarity

/-!
# `Accord.Cli.Arguments`: reading arguments

An argument that starts with a dash is an option: a name behind two dashes, with the value
behind an equals sign or in the next argument, or letters behind one dash, the last of which may
have its value right behind it. A lone double dash ends the options. In a command options may
stand among the other arguments; in the group the first other argument ends them.
-/

set_option autoImplicit false

namespace Accord.Cli

/-- Options with their values, in order; a switch has an empty value. -/
abbrev Given := List (Flag × String)

/-- What arguments say. -/
structure Reading where
  given : Given
  operands : List String

/-- An option by its name. -/
def readNamed (flag : Flag) (name : String) (value : Option String) (rest : List String) :
    Except Misuse (Given × List String) :=
  if flag.takesValue then
    match value, rest with
    | some value, _ => .ok ([(flag, value)], rest)
    | none, value :: rest => .ok ([(flag, value)], rest)
    | none, [] => .error (.valueMissing name)
  else
    match value with
    | some _ => .error (.valueRefused name)
    | none => .ok ([(flag, "")], rest)

/-- Options by their letters. -/
def readLetters (flags : List Flag) (rest : List String) :
    List Char → Except Misuse (Given × List String)
  | [] => .ok ([], rest)
  | letter :: more =>
    match flags.find? fun flag => flag.letter? == some letter with
    | none => .error (.unknownOption s!"-{letter}" [])
    | some flag =>
      if flag.takesValue then
        -- What is left of the argument is the value, even if it starts with an equals sign.
        let value := if more.isEmpty then none else some (String.ofList more)
        readNamed flag s!"-{letter}" value rest
      else
        match readLetters flags rest more with
        | .error misuse => .error misuse
        | .ok (given, left) => .ok ((flag, "") :: given, left)

/-- The part of an argument in front of its first equals sign, and the part behind it. -/
def splitEquals (argument : List Char) : String × Option String :=
  let name := String.ofList (argument.takeWhile (· != '='))
  match argument.dropWhile (· != '=') with
  | [] => (name, none)
  | _ :: value => (name, some (String.ofList value))

/-- The options in one argument, and the arguments after it. -/
def readOption (flags : List Flag) (argument : List Char) (rest : List String) :
    Except Misuse (Given × List String) :=
  let (name, value) := splitEquals argument
  match flags.find? fun flag => flag.long == name with
  | some flag => readNamed flag name value rest
  | none =>
    if argument.take 2 == ['-', '-'] then
      .error (.unknownOption name (Text.closest name (flags.map Flag.long)))
    else readLetters flags rest (argument.drop 1)

/-- Reads the arguments of a scope. -/
def readArguments (scope : Scope) : Nat → List String → Except Misuse Reading
  | 0, rest => .ok ⟨[], rest⟩
  | _ + 1, [] => .ok ⟨[], []⟩
  | fuel + 1, argument :: rest =>
    if argument = "--" then .ok ⟨[], rest⟩
    else if argument.toList.head? = some '-' && argument ≠ "-" then
      match readOption scope.flags argument.toList rest with
      | .error misuse => .error misuse
      | .ok (given, left) =>
        -- An option may have taken the next argument, so the rest is what it left.
        match readArguments scope fuel left with
        | .error misuse => .error misuse
        | .ok reading => .ok { reading with given := given ++ reading.given }
    -- The command and all behind it are for the command to read.
    else if scope = .group then .ok ⟨[], argument :: rest⟩
    else
      match readArguments scope fuel rest with
      | .error misuse => .error misuse
      | .ok reading => .ok { reading with operands := argument :: reading.operands }

/-- What the arguments of a scope say. -/
def Reading.of (scope : Scope) (arguments : List String) : Except Misuse Reading :=
  readArguments scope (arguments.length + 1) arguments

/-- Whether an option is given. -/
def Reading.has (reading : Reading) (flag : Flag) : Bool :=
  reading.given.any fun entry => entry.1 == flag

/-- The value of an option; of several the last one counts. -/
def Reading.value? (reading : Reading) (flag : Flag) : Option String :=
  (reading.given.reverse.find? fun entry => entry.1 == flag).map Prod.snd

/-- The options that are given, each once, in the order of their first appearance. -/
def Reading.flags (reading : Reading) : List Flag :=
  (reading.given.map Prod.fst).foldl
    (fun seen flag => if seen.contains flag then seen else seen ++ [flag]) []

end Accord.Cli
