import Accord.Json.Basic
import Accord.Number.Hex

/-!
# `Accord.Json.Reader`: reading JSON text

`Json.read` gives the value of a text or its first fault with the place where it was found.
Besides the standard notation the names `NaN`, `Infinity` and `-Infinity` are numbers. Blanks
are the space, the tab and the two line ends. Of two members with one name the later value
stands at the earlier place.

A fault is carried by the characters that were left when it was found, and its place is counted
from the end of the text only when it leaves the reader.

Two faults are no faults of the notation: a whole number of too many digits, and arrays and
objects that stand too deep inside each other. How deep is too deep depends on where the reader
runs, so it is a parameter of the reader (`Nesting`), and nothing else in the library fixes it.
-/

set_option autoImplicit false

namespace Accord.Json

/-- Why a text is no JSON document. -/
inductive ReadCause where
  | expectingValue
  | expectingName
  | expectingColon
  | expectingComma
  | unterminatedString
  | controlCharacter
  | invalidEscape
  | invalidCodeEscape
  | extraData
  | byteOrderMark
  /-- A whole number of more digits than are read; the count is that of the digits. -/
  | integerTooLong (digits : Nat)
  /-- An array or object inside as many others as may stand around it. -/
  | tooDeep
  deriving DecidableEq, Repr

/-- A fault and its place: `offset` characters stand before it, and lines and columns count from
one. -/
structure ReadFault where
  cause : ReadCause
  offset : Nat
  line : Nat
  column : Nat
  deriving DecidableEq, Repr

/-- The greatest number of digits of a whole number. -/
def maxIntegerDigits : Nat := 4300

/-- How many arrays and objects may stand inside each other in a text that is read. -/
class Nesting where
  /-- The greatest number of them. -/
  limit : Nat

/-- What a part of the reader answers: a result and the characters after it, or a fault and the
characters from its place on. -/
abbrev Reading (α : Type) := Except (ReadCause × List Char) (α × List Char)

/-- The blanks between tokens. -/
def isSpacing (c : Char) : Bool :=
  c == ' ' || c == '\t' || c == '\n' || c == '\r'

/-- The characters after the blanks at the start. -/
def skipSpacing (text : List Char) : List Char :=
  text.dropWhile isSpacing

/-- The number that four digits in base sixteen spell at the start of a text. -/
def hexFour? : List Char → Option (Nat × List Char)
  | a :: b :: c :: d :: rest => do
    let a ← Number.hexDigit? a
    let b ← Number.hexDigit? b
    let c ← Number.hexDigit? c
    let d ← Number.hexDigit? d
    return (((a * 16 + b) * 16 + c) * 16 + d, rest)
  | _ => none

/-- The character that a backslash and a letter stand for. -/
def simpleEscape? : Char → Option Char
  | '"' => some '"'
  | '\\' => some '\\'
  | '/' => some '/'
  | 'b' => some '\x08'
  | 'f' => some '\x0c'
  | 'n' => some '\n'
  | 'r' => some '\r'
  | 't' => some '\t'
  | _ => none

/-- Joins a code unit with the one that is spelled after it when the two are a surrogate pair. At
least one more character has to follow the pair. -/
def joinSurrogates (unit : Nat) (rest : List Char) :
    Except (ReadCause × List Char) (Char × List Char) :=
  let alone := Char.ofNat (if 0xD800 ≤ unit ∧ unit ≤ 0xDFFF then 0xFFFD else unit)
  if 0xD800 ≤ unit ∧ unit ≤ 0xDBFF then
    match rest with
    | '\\' :: 'u' :: digits =>
      -- The four digits alone do not make a pair: the reader looks one character further.
      if digits.length ≤ 4 then .ok (alone, rest)
      else
        match hexFour? digits with
        | none => .error (.invalidCodeEscape, 'u' :: digits)
        | some (second, after) =>
          if 0xDC00 ≤ second ∧ second ≤ 0xDFFF then
            .ok (Char.ofNat (0x10000 + (unit - 0xD800) * 0x400 + (second - 0xDC00)), after)
          -- The second unit is no other half, so it is read again as one of its own.
          else .ok (alone, rest)
    | _ => .ok (alone, rest)
  else .ok (alone, rest)

/-- Reads a string up to its closing quote. `start` is the text from the opening quote on, `read`
the characters read so far, last one first, and `fuel` bounds the number of characters. -/
def readString (start : List Char) : Nat → List Char → List Char → Reading String
  | 0, _, _ => .error (.unterminatedString, start)
  | _ + 1, _, [] => .error (.unterminatedString, start)
  | _ + 1, read, '"' :: rest => .ok (String.ofList read.reverse, rest)
  | _ + 1, _, ['\\'] => .error (.unterminatedString, start)
  | fuel + 1, read, '\\' :: 'u' :: digits =>
    if digits.length ≤ 4 then .error (.invalidCodeEscape, 'u' :: digits)
    else
      match hexFour? digits with
      | none => .error (.invalidCodeEscape, 'u' :: digits)
      | some (unit, after) =>
        match joinSurrogates unit after with
        | .error fault => .error fault
        | .ok (c, rest) => readString start fuel (c :: read) rest
  | fuel + 1, read, '\\' :: letter :: rest =>
    match simpleEscape? letter with
    | some c => readString start fuel (c :: read) rest
    | none => .error (.invalidEscape, '\\' :: letter :: rest)
  | fuel + 1, read, c :: rest =>
    if c.toNat < 32 then .error (.controlCharacter, c :: rest)
    else readString start fuel (c :: read) rest

/-- The number that digits in base ten spell. -/
def decimalValue (digits : List Char) : Nat :=
  digits.foldl (fun value c => value * 10 + (c.toNat - '0'.toNat)) 0

/-- The digits of the whole part: a zero alone, or digits that do not start with one. -/
def wholeDigits : List Char → List Char × List Char
  | '0' :: rest => (['0'], rest)
  | text => text.span Char.isDigit

/-- The digits after a point; a point without digits is no part of the number. -/
def fractionDigits : List Char → List Char × List Char
  | '.' :: rest =>
    let (digits, after) := rest.span Char.isDigit
    if digits.isEmpty then ([], '.' :: rest) else (digits, after)
  | text => ([], text)

/-- The exponent after a mark; a mark without digits is no part of the number. -/
def exponentPart (text : List Char) : Option Int × List Char :=
  match text with
  | mark :: rest =>
    if mark == 'e' || mark == 'E' then
      let (negative, unsigned) := match rest with
        | '-' :: unsigned => (true, unsigned)
        | '+' :: unsigned => (false, unsigned)
        | unsigned => (false, unsigned)
      let (digits, after) := unsigned.span Char.isDigit
      if digits.isEmpty then (none, text)
      else
        let value : Int := decimalValue digits
        (some (if negative then -value else value), after)
    else (none, text)
  | [] => (none, text)

/-- Reads a number. -/
def readNumber (text : List Char) : Reading Json :=
  let (negative, unsigned) := match text with
    | '-' :: unsigned => (true, unsigned)
    | unsigned => (false, unsigned)
  let (whole, afterWhole) := wholeDigits unsigned
  if whole.isEmpty then .error (.expectingValue, text)
  else
    let (fraction, afterFraction) := fractionDigits afterWhole
    let (exponent, rest) := exponentPart afterFraction
    -- Only a number without fraction and exponent is a whole one, and only its length is limited.
    if fraction.isEmpty && exponent.isNone then
      if maxIntegerDigits < whole.length then .error (.integerTooLong whole.length, text)
      else
        let value : Int := decimalValue whole
        .ok (.int (if negative then -value else value), rest)
    else
      -- The fraction is read as part of the digits, and the point is moved by the exponent.
      let power := exponent.getD 0 - (fraction.length : Int)
      .ok (.double (.ofDecimal negative (decimalValue (whole ++ fraction)) power), rest)

/-- The words that are values. -/
def literals : List (String × Json) :=
  [("null", .null), ("true", .bool true), ("false", .bool false), ("NaN", .double .nan),
    ("Infinity", .double (.infinite false)), ("-Infinity", .double (.infinite true))]

/-- The value of a word at the start of a text. -/
def readLiteral? (text : List Char) : Option (Json × List Char) :=
  literals.findSome? fun (word, value) =>
    if word.toList.isPrefixOf text then some (value, text.drop word.length) else none

mutual

/-- Reads one value. Every call is counted by `fuel`, and `room` is the number of arrays and objects
that may still be opened around the place. -/
def readValue : Nat → Nat → List Char → Reading Json
  | 0, _, text => .error (.expectingValue, text)
  | fuel + 1, room, text =>
    match text, room with
    | '"' :: rest, _ => (readString text (rest.length + 1) [] rest).map fun (s, r) => (.string s, r)
    -- The limit is hit at the bracket, before anything inside is looked at.
    | '{' :: _, 0 | '[' :: _, 0 => .error (.tooDeep, text)
    | '{' :: rest, room + 1 =>
      match skipSpacing rest with
      | '}' :: after => .ok (.object [], after)
      | first => (readMembers fuel room [] first).map fun (members, r) => (.object members, r)
    | '[' :: rest, room + 1 =>
      match skipSpacing rest with
      | ']' :: after => .ok (.array [], after)
      | first => (readItems fuel room [] first).map fun (items, r) => (.array items, r)
    | _, _ =>
      match readLiteral? text with
      | some found => .ok found
      | none => readNumber text

/-- Reads the items of an array up to its closing bracket; `read` holds the items before, last one
first. -/
def readItems : Nat → Nat → List Json → List Char → Reading (List Json)
  | 0, _, _, text => .error (.expectingValue, text)
  | fuel + 1, room, read, text =>
    match readValue fuel room text with
    | .error fault => .error fault
    | .ok (item, rest) =>
      match skipSpacing rest with
      | ']' :: after => .ok ((item :: read).reverse, after)
      | ',' :: after => readItems fuel room (item :: read) (skipSpacing after)
      | other => .error (.expectingComma, other)

/-- Reads the members of an object up to its closing brace; `read` holds the members before. -/
def readMembers : Nat → Nat → List (String × Json) → List Char → Reading (List (String × Json))
  | 0, _, _, text => .error (.expectingName, text)
  | fuel + 1, room, read, text =>
    match text with
    | '"' :: inside =>
      match readString text (inside.length + 1) [] inside with
      | .error fault => .error fault
      | .ok (name, rest) =>
        match skipSpacing rest with
        | ':' :: after =>
          match readValue fuel room (skipSpacing after) with
          | .error fault => .error fault
          | .ok (value, rest) =>
            -- A name that was there keeps its place and gets the later value.
            let members := Entries.insert read name value
            match skipSpacing rest with
            | '}' :: after => .ok (members, after)
            | ',' :: after => readMembers fuel room members (skipSpacing after)
            | other => .error (.expectingComma, other)
        | other => .error (.expectingColon, other)
    | other => .error (.expectingName, other)

end

/-- The fault at an offset of a text. -/
def ReadFault.at (cause : ReadCause) (text : List Char) (offset : Nat) : ReadFault :=
  let before := text.take offset
  { cause := cause
    offset := offset
    line := before.count '\n' + 1
    column := (before.reverse.takeWhile (· != '\n')).length + 1 }

/-- The value of a text, or its first fault. -/
def readChars [Nesting] (text : List Char) : Except ReadFault Json :=
  let place (rest : List Char) : Nat := text.length - rest.length
  match text with
  -- The mark is refused before any blank is skipped.
  | '\uFEFF' :: _ => .error (.at .byteOrderMark text 0)
  | _ =>
    -- A value opens at most once per character, and each bracket takes two calls.
    match readValue (2 * text.length + 2) Nesting.limit (skipSpacing text) with
    | .error (cause, rest) => .error (.at cause text (place rest))
    | .ok (value, rest) =>
      match skipSpacing rest with
      | [] => .ok value
      | extra => .error (.at .extraData text (place extra))

/-- The value of a text, or its first fault. -/
def read [Nesting] (text : String) : Except ReadFault Json :=
  readChars text.toList

/-- The wording of a cause. -/
def ReadCause.message : ReadCause → String
  | .expectingValue => "Expecting value"
  | .expectingName => "Expecting property name enclosed in double quotes"
  | .expectingColon => "Expecting ':' delimiter"
  | .expectingComma => "Expecting ',' delimiter"
  | .unterminatedString => "Unterminated string starting at"
  | .controlCharacter => "Invalid control character at"
  | .invalidEscape => "Invalid \\escape"
  | .invalidCodeEscape => "Invalid \\uXXXX escape"
  | .extraData => "Extra data"
  | .byteOrderMark => "Unexpected UTF-8 BOM (decode using utf-8-sig)"
  | .integerTooLong digits =>
    s!"Exceeds the limit ({maxIntegerDigits} digits) for integer string conversion: value has " ++
      s!"{digits} digits; use sys.set_int_max_str_digits() to increase the limit"
  | .tooDeep => "maximum recursion depth exceeded"

/-- The wording of a fault with its place. -/
def ReadFault.message (fault : ReadFault) : String :=
  match fault.cause with
  | .integerTooLong _ | .tooDeep => fault.cause.message
  | cause => s!"{cause.message}: line {fault.line} column {fault.column} (char {fault.offset})"

end Accord.Json
