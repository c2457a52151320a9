import Accord.Number.Hex
import Accord.Number.Integer
import Accord.Text.Blank

/-!
# `Accord.Yaml.Tag`: what plain scalars stand for

Every node has a tag that says what it stands for. A plain scalar without a tag of its own gets
one by its text: some words are truth values or nothing at all, and texts in the form of a
number or a date stand for one. A text may have the form of a whole number or a date and still
not be one: `isInteger` and `isFloat` ask for the form, `spellsInteger` and `spellsNumber` for a
number.
-/

set_option autoImplicit false

namespace Accord.Yaml

/-- What the tags of the standard sorts of nodes start with. -/
def standardLead : String := "tag:yaml.org,2002:"

/-- The tag of a standard sort of nodes. -/
def standardTag (name : String) : String :=
  standardLead ++ name

/-- The tag of nodes that stand for nothing. -/
def nullTag : String := standardTag "null"
/-- The tag of truth values. -/
def booleanTag : String := standardTag "bool"
/-- The tag of whole numbers. -/
def integerTag : String := standardTag "int"
/-- The tag of numbers with a point or an exponent. -/
def floatTag : String := standardTag "float"
/-- The tag of dates. -/
def dateTag : String := standardTag "timestamp"
/-- The tag of texts. -/
def textTag : String := standardTag "str"
/-- The tag of lists. -/
def sequenceTag : String := standardTag "seq"
/-- The tag of mappings. -/
def mappingTag : String := standardTag "map"

/-- The tag of the key that takes over the entries of another mapping. -/
def mergeTag : String := standardTag "merge"

/-- The tag of the key for the value that a mapping stands for. -/
def defaultTag : String := standardTag "value"

/-! ### Words -/

/-- The words that are true, in lower case. -/
def trueWords : List String :=
  ["yes", "true", "on"]

/-- The words that are false, in lower case. -/
def falseWords : List String :=
  ["no", "false", "off"]

/-- The spellings of a word: in lower case, with a capital, or in capitals. -/
def spellings (word : String) : List String :=
  [word, word.capitalize, word.map Char.toUpper]

/-- Whether a text is a truth value. -/
def isBoolean (text : String) : Bool :=
  ((trueWords ++ falseWords).flatMap spellings).contains text

/-- Whether a text stands for nothing. -/
def isNull (text : String) : Bool :=
  ("" :: "~" :: spellings "null").contains text

/-! ### Numbers -/

/-- The characters after a sign. -/
def dropSign : List Char → List Char
  | '+' :: rest => rest
  | '-' :: rest => rest
  | text => text

/-- Whether a text is not empty and every character is a digit of a kind or a low line. -/
def isDigitRun (isDigit : Char → Bool) (text : List Char) : Bool :=
  !text.isEmpty && text.all fun c => isDigit c || c == '_'

/-- A digit in base two. -/
def isBinaryDigit (c : Char) : Bool :=
  c == '0' || c == '1'

/-- A digit in base eight. -/
def isOctalDigit (c : Char) : Bool :=
  '0' ≤ c && c ≤ '7'

/-- A digit in base sixteen. -/
def isHexDigit (c : Char) : Bool :=
  (Number.hexDigit? c).isSome

/-- The pieces of a text between its colons. -/
def splitColon : List Char → List (List Char)
  | [] => [[]]
  | c :: rest =>
    if c = ':' then [] :: splitColon rest
    else
      match splitColon rest with
      | [] => [[c]]
      | piece :: pieces => (c :: piece) :: pieces

/-- Whether a piece behind a colon counts sixtieths. -/
def isSixtieth : List Char → Bool
  | [ones] => ones.isDigit
  | [tens, ones] => '0' ≤ tens && tens ≤ '5' && ones.isDigit
  | _ => false

/-- Whether a text starts with a digit and goes on with digits and low lines. -/
def isDecimal (text : List Char) : Bool :=
  (text.head?.map Char.isDigit).getD false && isDigitRun Char.isDigit text

/-- Whether a text has the form of a whole number: in base two, eight, sixteen or ten, or in
base sixty with colons between the digits. -/
def isInteger (text : List Char) : Bool :=
  match dropSign text with
  | '0' :: 'b' :: digits => isDigitRun isBinaryDigit digits
  | '0' :: 'x' :: digits => isDigitRun isHexDigit digits
  | ['0'] => true
  | '0' :: digits => isDigitRun isOctalDigit digits
  | digits =>
    match splitColon digits with
    | [] => false
    | whole :: sixtieths => isDecimal whole && sixtieths.all isSixtieth

/-- Whether a text is an exponent: a letter, a sign and digits, or nothing. -/
def isExponent : List Char → Bool
  | [] => true
  | letter :: sign :: digits =>
    (letter == 'e' || letter == 'E') && (sign == '+' || sign == '-') && !digits.isEmpty &&
      digits.all Char.isDigit
  | _ => false

/-- Whether a text behind a point is a row of digits and low lines with an exponent. -/
def isFraction (text : List Char) : Bool :=
  isExponent (text.dropWhile fun c => c.isDigit || c == '_')

/-- Whether a text is a number in base sixty in front of a point. -/
def isSexagesimal (text : List Char) : Bool :=
  match splitColon text with
  | whole :: sixtieth :: more => isDecimal whole && (sixtieth :: more).all isSixtieth
  | _ => false

/-- Whether a text has the form of a number with a point. -/
def isFloat (text : List Char) : Bool :=
  let unsigned := dropSign text
  let before := unsigned.takeWhile (· != '.')
  match unsigned.dropWhile (· != '.') with
  | [] => false
  | _ :: after =>
    if before.isEmpty then
      (spellings "inf").contains (String.ofList after) ||
        (text == unsigned &&
          (["nan", "NaN", "NAN"].contains (String.ofList after) ||
            ((after.head?.map Char.isDigit).getD false && isFraction after)))
    else if isDecimal before then isFraction after
    else isSexagesimal before && after.all fun c => c.isDigit || c == '_'

/-- A text without the blanks at its ends. -/
def trim (text : List Char) : List Char :=
  (((text.dropWhile Text.isBlank).reverse).dropWhile Text.isBlank).reverse

/-- The digits of a text behind its sign and, if one of the `letters` follows a zero there,
behind the mark of the base. -/
def digitsBehind (letters : List Char) (text : List Char) : List Char :=
  match dropSign (trim text) with
  | '0' :: letter :: rest => if letters.contains letter then rest else '0' :: letter :: rest
  | digits => digits

/-- Whether a text spells a whole number in a base whose digits are given. -/
def spellsInBase (isDigit : Char → Bool) (letters text : List Char) : Bool :=
  let digits := digitsBehind letters text
  !digits.isEmpty && digits.all isDigit

/-- Whether a text spells a whole number in base ten that is not too long. -/
def spellsDecimal (text : List Char) : Bool :=
  (Number.integer? (String.ofList (trim text))).isSome

/-- Whether a text without low lines spells a whole number, in any of the bases. -/
def spellsInteger (text : List Char) : Bool :=
  match dropSign text with
  | ['0'] => true
  | '0' :: 'b' :: digits => spellsInBase isBinaryDigit ['b', 'B'] digits
  | '0' :: 'x' :: digits => spellsInBase isHexDigit ['x', 'X'] digits
  | '0' :: digits => spellsInBase isOctalDigit ['o', 'O'] ('0' :: digits)
  | digits => (splitColon digits).all spellsDecimal

/-- Whether a character is a decimal digit of any script. -/
def isAnyDigit (c : Char) : Bool :=
  (Number.digit? c).isSome

/-- Whether a text spells a number with a point or an exponent at will, or names one that is no
finite number. -/
def spellsPointed (text : List Char) : Bool :=
  let unsigned := dropSign (trim text)
  let afterWhole := unsigned.dropWhile isAnyDigit
  let afterPoint := match afterWhole with
    | '.' :: fraction => fraction.dropWhile isAnyDigit
    | rest => rest
  let exponentFits := match afterPoint with
    | [] => true
    | 'e' :: exponent => !(dropSign exponent).isEmpty && (dropSign exponent).all isAnyDigit
    | _ => false
  -- There is a digit before the point or right behind it.
  let hasDigit := ((unsigned.head?.map isAnyDigit).getD false) ||
    (afterWhole.head? == some '.' && ((afterWhole.tail.head?.map isAnyDigit).getD false))
  ["inf", "infinity", "nan"].contains (String.ofList unsigned) || hasDigit && exponentFits

/-- Whether a text without low lines spells a number of any kind. -/
def spellsNumber (text : List Char) : Bool :=
  let unsigned := dropSign (text.map Char.toLower)
  [".inf", ".nan"].contains (String.ofList unsigned) || (splitColon unsigned).all spellsPointed

/-! ### Dates -/

/-- A time of day, with the hours and minutes that it is away from the mean time. -/
structure Clock where
  hour : Nat
  minute : Nat
  second : Nat
  zone : Option (Nat × Nat)

/-- A date, and a time of day if one is given. -/
structure Date where
  year : Nat
  month : Nat
  day : Nat
  clock : Option Clock

/-- The value of at least and at most so many digits at the start of a text, and the characters
after them. -/
def digitsBetween (least most : Nat) (text : List Char) : Option (Nat × List Char) :=
  let digits := (text.take most).takeWhile Char.isDigit
  if digits.length < least then none
  else
    some (digits.foldl (fun value digit => value * 10 + (digit.toNat - '0'.toNat)) 0,
      text.drop digits.length)

/-- The characters after a given one. -/
def after (c : Char) : List Char → Option (List Char)
  | [] => none
  | first :: rest => if first = c then some rest else none

/-- The characters after the separator of a date and a time. -/
def afterDate : List Char → Option (List Char)
  | [] => none
  | c :: rest =>
    if c == 'T' || c == 't' then some rest
    else if c == ' ' || c == '\t' then some (rest.dropWhile fun c => c == ' ' || c == '\t')
    else none

/-- How far a time of day is away from the mean time, at the end of a text. -/
def zone (text : List Char) : Option (Option (Nat × Nat)) :=
  match text.dropWhile fun c => c == ' ' || c == '\t' with
  | [] => if text.isEmpty then some none else none
  | ['Z'] => some none
  | sign :: rest =>
    if sign == '+' || sign == '-' then do
      let (hours, rest) ← digitsBetween 1 2 rest
      match rest with
      | [] => return some (hours, 0)
      | ':' :: rest =>
        let (minutes, rest) ← digitsBetween 2 2 rest
        if rest.isEmpty then return some (hours, minutes) else none
      | _ => none
    else none

/-- The time of day at the end of a text. -/
def clock (text : List Char) : Option Clock := do
  let (hour, rest) ← digitsBetween 1 2 text
  let (minute, rest) ← digitsBetween 2 2 (← after ':' rest)
  let (second, rest) ← digitsBetween 2 2 (← after ':' rest)
  let rest := match rest with
    | '.' :: fraction => fraction.dropWhile Char.isDigit
    | rest => rest
  return ⟨hour, minute, second, ← zone rest⟩

/-- The date, with or without a time of day, that a text has the form of. Without one the month
and the day have two digits. -/
def date? (text : List Char) : Option Date := do
  let (year, rest) ← digitsBetween 4 4 text
  let (month, rest) ← digitsBetween 1 2 (← after '-' rest)
  let (day, rest) ← digitsBetween 1 2 (← after '-' rest)
  if rest.isEmpty then
    if text.length = 10 then return ⟨year, month, day, none⟩ else none
  else
    let clock ← clock (← afterDate rest)
    return ⟨year, month, day, some clock⟩

/-- How many days a month has. -/
def daysIn (year month : Nat) : Nat :=
  if month = 2 then
    if year % 4 = 0 && (year % 100 ≠ 0 || year % 400 = 0) then 29 else 28
  else if [4, 6, 9, 11].contains month then 30
  else 31

/-- Whether there is such a time of day. -/
def Clock.isReal (clock : Clock) : Bool :=
  let zoneIsReal := match clock.zone with
    | some (hours, minutes) => decide (hours * 60 + minutes < 24 * 60)
    | none => true
  decide (clock.hour < 24) && decide (clock.minute < 60) && decide (clock.second < 60) && zoneIsReal

/-- Whether there is such a date. -/
def Date.isReal (date : Date) : Bool :=
  decide (1 ≤ date.year) && decide (1 ≤ date.month) && decide (date.month ≤ 12) &&
    decide (1 ≤ date.day) && decide (date.day ≤ daysIn date.year date.month) &&
    (date.clock.map Clock.isReal).getD true

/-! ### Tags by text -/

/-- The tag of a plain scalar without one of its own. -/
def plainTag (text : String) : String :=
  let chars := text.toList
  if isBoolean text then booleanTag
  else if isFloat chars then floatTag
  else if isInteger chars then integerTag
  else if text = "<<" then mergeTag
  else if isNull text then nullTag
  else if (date? chars).isSome then dateTag
  else if text = "=" then defaultTag
  else textTag

end Accord.Yaml
