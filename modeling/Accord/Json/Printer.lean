import Accord.Json.Basic
import Accord.Number.Shortest
import Accord.Text.Escaped

/-!
# `Accord.Json.Printer`: writing JSON values

`compact` writes a value as JSON text without blanks. `display` writes it for a message: a text
as it is, everything inside an array or an object in a quoted form in which the quote is chosen
so that it need not be escaped and characters without a glyph are written by their code.
-/

set_option autoImplicit false

namespace Accord.Json

/-- A character inside a JSON string. -/
def escapeChar (c : Char) : List Char :=
  if c == '"' then ['\\', '"']
  else if c == '\\' then ['\\', '\\']
  else if c == '\n' then ['\\', 'n']
  else if c == '\r' then ['\\', 'r']
  else if c == '\t' then ['\\', 't']
  else if c == '\x08' then ['\\', 'b']
  else if c == '\x0c' then ['\\', 'f']
  else if c.toNat < 32 then ['\\', 'u'] ++ Number.hexPadded 4 c.toNat
  else [c]

/-- A text as a JSON string. -/
def stringText (text : String) : String :=
  "\"" ++ String.ofList (text.toList.flatMap escapeChar) ++ "\""

mutual

/-- A value as JSON text without blanks. -/
def compact : Json → String
  | .null => "null"
  | .bool true => "true"
  | .bool false => "false"
  | .int value => toString value
  | .double value => value.text "NaN" "Infinity"
  | .string value => stringText value
  | .array items => "[" ++ String.intercalate "," (compactItems items) ++ "]"
  | .object members => "\x7b" ++ String.intercalate "," (compactMembers members) ++ "\x7d"

/-- The texts of the items of an array. -/
def compactItems : List Json → List String
  | [] => []
  | item :: rest => compact item :: compactItems rest

/-- The texts of the members of an object. -/
def compactMembers : List (String × Json) → List String
  | [] => []
  | (name, value) :: rest => (stringText name ++ ":" ++ compact value) :: compactMembers rest

end

mutual

/-- A value as it stands inside an array or object that is shown. -/
def displayInner : Json → String
  | .null => "None"
  | .bool true => "True"
  | .bool false => "False"
  | .int value => toString value
  | .double value => value.text "nan" "inf"
  | .string value => Text.quoted value
  | .array items => "[" ++ String.intercalate ", " (displayItems items) ++ "]"
  | .object members => "\x7b" ++ String.intercalate ", " (displayMembers members) ++ "\x7d"

/-- The shown items of an array. -/
def displayItems : List Json → List String
  | [] => []
  | item :: rest => displayInner item :: displayItems rest

/-- The shown members of an object. -/
def displayMembers : List (String × Json) → List String
  | [] => []
  | (name, value) :: rest => (Text.quoted name ++ ": " ++ displayInner value) :: displayMembers rest

end

/-- A value as a message shows it. -/
def display : Json → String
  | .string value => value
  | other => displayInner other

/-- The text of a number as an enumeration spells it: a floating-point value that is whole is
written without a point. Other values have no such text. -/
def numberText? : Json → Option String
  | .int value => some (toString value)
  | .double value =>
    match value.toInt? with
    | some whole => some (toString whole)
    | none => some (value.text "nan" "inf")
  | _ => none

end Accord.Json
