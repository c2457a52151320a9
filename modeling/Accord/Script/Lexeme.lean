import Accord.Text.Ranges

/-!
# `Accord.Script.Lexeme`: what single tokens look like

A reader takes the characters of one token off the front of a text and gives them together with
the rest, or declines. Readers look at the text as it stands; blanks and comments in front of a
token are the matter of `Script.Layout`.
-/

set_option autoImplicit false

namespace Accord.Script

/-- Reads the characters of one token: what it read and what follows. -/
abbrev Reader := List Char → Option (List Char × List Char)

/-! ### Blanks and names -/

/-- The blanks between tokens: the white space of Unicode and three characters without width. -/
def spaceRanges : Text.Ranges :=
  [(0x9, 0xd), (0x20, 0x20), (0x85, 0x85), (0xa0, 0xa0), (0x1680, 0x1680), (0x2000, 0x200b),
    (0x2028, 0x2029), (0x202f, 0x202f), (0x205f, 0x2060), (0x3000, 0x3000), (0xfeff, 0xfeff)]

/-- Whether a character is a blank between tokens. -/
def isSpace (c : Char) : Bool :=
  if c.toNat < 0x80 then c == ' ' || (0x9 ≤ c.toNat && c.toNat ≤ 0xd) else spaceRanges.covers c

/-- Whether a character ends a line. -/
def isLineEnd (c : Char) : Bool :=
  c == '\n' || c == '\r' || c == '\u2028' || c == '\u2029'

/-- The ASCII characters that are no part of a name. -/
def isPunctuation (c : Char) : Bool :=
  ":;`\"'@#.,|^&<=>+-*/\\%?!~()[]\x7b\x7d".toList.contains c

/-- Whether a character may stand in a name. Everything may that is neither a blank, nor a control
character, nor punctuation. -/
def isNamePart (c : Char) : Bool :=
  0x20 ≤ c.toNat && !isSpace c && !isPunctuation c

/-- Whether a character may start a name. -/
def isNameStart (c : Char) : Bool :=
  isNamePart c && !c.isDigit

/-- Whether a character is a digit in base sixteen. -/
def isHexDigit (c : Char) : Bool :=
  c.isDigit || ('a' ≤ c && c ≤ 'f') || ('A' ≤ c && c ≤ 'F')

/-- The part of a name after what was read of it; `read` has its last character first. A character
may be written by its code point in four digits. -/
def nameFrom (read : List Char) : List Char → List Char × List Char
  | '\\' :: 'u' :: a :: b :: c :: d :: rest =>
    if [a, b, c, d].all isHexDigit then nameFrom (d :: c :: b :: a :: 'u' :: '\\' :: read) rest
    else (read.reverse, '\\' :: 'u' :: a :: b :: c :: d :: rest)
  | c :: rest => if isNamePart c then nameFrom (c :: read) rest else (read.reverse, c :: rest)
  | [] => (read.reverse, [])

/-- Reads a name. -/
def name? : Reader
  | [] => none
  | c :: rest =>
    if isNameStart c then some (nameFrom [c] rest)
    else if c = '\\' then
      match nameFrom [] (c :: rest) with
      | ([], _) => none
      | found => some found
    else none

/-- Reads a private name: a name after a number sign. -/
def privateName? : Reader
  | '#' :: rest => (name? rest).map fun found => ('#' :: found.1, found.2)
  | _ => none

/-- The word that a text starts with. -/
def word? (text : List Char) : Option String :=
  (name? text).map fun found => String.ofList found.1

/-- The text after the name that it starts with. -/
def afterName (text : List Char) : List Char :=
  match name? text with
  | some (_, rest) => rest
  | none => text

/-- Reads exactly some characters. -/
def exactly (lexeme : List Char) : Reader := fun text =>
  if lexeme.isPrefixOf text then some (lexeme, text.drop lexeme.length) else none

/-- Reads exactly a word, which no further character of a name may follow. -/
def exactWord (word : String) : Reader := fun text =>
  match name? text with
  | some (found, rest) => if String.ofList found = word then some (found, rest) else none
  | none => none

/-! ### Numbers -/

/-- The longest run of digits, a low line between two digits allowed. -/
def digits (isDigit : Char → Bool) : List Char → List Char × List Char
  | '_' :: c :: rest =>
    if isDigit c then
      let more := digits isDigit rest
      ('_' :: c :: more.1, more.2)
    else ([], '_' :: c :: rest)
  | c :: rest =>
    if isDigit c then
      let more := digits isDigit rest
      (c :: more.1, more.2)
    else ([], c :: rest)
  | [] => ([], [])

/-- A run of digits that starts with a digit. -/
def digitRun? (isDigit : Char → Bool) : Reader
  | c :: rest => if isDigit c then some (digits isDigit (c :: rest)) else none
  | [] => none

/-- Adds the mark of a big integer, if it follows. -/
def withBigMark (read : List Char × List Char) : List Char × List Char :=
  match read.2 with
  | 'n' :: rest => (read.1 ++ ['n'], rest)
  | _ => read

/-- Adds an exponent, if one follows. -/
def withExponent (read : List Char × List Char) : List Char × List Char :=
  match read.2 with
  | e :: rest =>
    if e = 'e' || e = 'E' then
      let (sign, unsigned) := match rest with
        | '+' :: more => (['+'], more)
        | '-' :: more => (['-'], more)
        | more => ([], more)
      match digitRun? Char.isDigit unsigned with
      | some (power, after) => (read.1 ++ e :: sign ++ power, after)
      -- A letter without digits behind it is read as the start of a name.
      | none => read
    else read
  | [] => read

/-- Whether digits may have a fraction: they do not start with two zeros or a zero and a low
line. -/
def allowsFraction : List Char → Bool
  -- Two zeros in front are those of a number in base eight, which has no point.
  | '0' :: c :: _ => c != '0' && c != '_'
  | _ => true

/-- Reads a number that is written with a base. -/
def basedNumber? : Reader
  | '0' :: base :: rest =>
    let isDigit? : Option (Char → Bool) :=
      if base = 'x' || base = 'X' then some isHexDigit
      else if base = 'o' || base = 'O' then some fun c => '0' ≤ c && c ≤ '7'
      else if base = 'b' || base = 'B' then some fun c => c == '0' || c == '1'
      else none
    do
      let (found, after) ← digitRun? (← isDigit?) rest
      return withBigMark ('0' :: base :: found, after)
  | _ => none

/-- Reads a number in base ten. -/
def decimal? : Reader
  | '.' :: rest =>
    (digitRun? Char.isDigit rest).map fun found => withExponent ('.' :: found.1, found.2)
  | text =>
    (digitRun? Char.isDigit text).map fun (whole, rest) =>
      if allowsFraction whole then
        match rest with
        | '.' :: more =>
          let fraction := (digitRun? Char.isDigit more).getD ([], more)
          withExponent (whole ++ '.' :: fraction.1, fraction.2)
        | 'n' :: more => (whole ++ ['n'], more)
        | _ => withExponent (whole, rest)
      else (whole, rest)

/-- Reads a number. -/
def number? : Reader := fun text =>
  -- A zero alone is tried last, since it may be the start of a base.
  (basedNumber? text).or (decimal? text)

/-! ### Texts between quotes -/

/-- Whether the characters after a backslash are an escape. -/
def isEscape : List Char → Bool
  | 'x' :: a :: b :: _ => isHexDigit a && isHexDigit b
  | 'x' :: _ => false
  | 'u' :: '\x7b' :: rest =>
    let code := rest.takeWhile isHexDigit
    !code.isEmpty && (rest.drop code.length).head? == some '\x7d'
  | 'u' :: rest => (rest.take 4).length == 4 && (rest.take 4).all isHexDigit
  | [] => false
  | _ => true

/-- The characters of a string up to its closing quote. -/
def stringFrom (quote : Char) (read : List Char) : Reader
  -- A backslash joins lines, and a line may end in two characters.
  | '\\' :: '\r' :: '\n' :: rest => stringFrom quote ('\n' :: '\r' :: '\\' :: read) rest
  | '\\' :: c :: rest =>
    if isEscape (c :: rest) then stringFrom quote (c :: '\\' :: read) rest else none
  | c :: rest =>
    if c = quote then some ((c :: read).reverse, rest)
    else if c = '\n' || c = '\r' then none
    else stringFrom quote (c :: read) rest
  | [] => none

/-- Reads a string. -/
def string? : Reader
  | c :: rest => if c = '"' || c = '\'' then stringFrom c [c] rest else none
  | [] => none

/-- The characters of a template up to a slot or its closing backquote. -/
def templateChunkFrom (read : List Char) : Reader
  | '`' :: rest => some (read.reverse, '`' :: rest)
  | '$' :: '\x7b' :: rest => some (read.reverse, '$' :: '\x7b' :: rest)
  | '\\' :: c :: rest =>
    if isEscape (c :: rest) then templateChunkFrom (c :: '\\' :: read) rest else none
  | c :: rest => templateChunkFrom (c :: read) rest
  | [] => none

/-- Reads the characters of a template up to a slot or its end. -/
def templateChunk? : Reader :=
  templateChunkFrom []

/-- The characters of a regular expression up to its closing slash; `inClass` holds between
brackets. -/
def regexFrom (inClass : Bool) (read : List Char) : Reader
  | '\\' :: c :: rest => if c = '\n' then none else regexFrom inClass (c :: '\\' :: read) rest
  | c :: rest =>
    if c = '\n' then none
    -- Between brackets a slash does not close the expression.
    else if inClass then regexFrom (c != ']') (c :: read) rest
    else if c = '/' then some ((c :: read).reverse, rest)
    else regexFrom (c == '[') (c :: read) rest
  | [] => none

/-- Reads a regular expression with its flags. -/
def regex? : Reader
  | '/' :: c :: rest =>
    if c = '/' then none
    else
      (regexFrom false ['/'] (c :: rest)).map fun (body, after) =>
        let flags := after.takeWhile fun c => 'a' ≤ c && c ≤ 'z'
        (body ++ flags, after.drop flags.length)
  | _ => none

/-! ### Markup -/

/-- Reads a name in markup, which may hold hyphens. -/
def markupName? : Reader := fun text =>
  match name? text with
  | some (found, rest) =>
    let more := rest.takeWhile fun c => c == '-' || isNamePart c
    some (found ++ more, rest.drop more.length)
  | none => none

/-- The characters of a text in markup up to a tag, a slot or a reference to a character. -/
def markupTextFrom (read : List Char) : Reader
  | c :: rest =>
    if "<>&\x7b\x7d".toList.contains c then some (read.reverse, c :: rest)
    else markupTextFrom (c :: read) rest
  | [] => none

/-- Reads a text in markup; it has at least one character. -/
def markupText? : Reader := fun text =>
  (markupTextFrom [] text).filter fun found => !found.1.isEmpty

/-- Reads a reference to a character: a name or a code point between an ampersand and a
semicolon. -/
def markupCharacter? : Reader
  | '&' :: rest =>
    let inside := rest.takeWhile fun c => c.isAlphanum || c == '#'
    match rest.drop inside.length with
    | ';' :: after => if inside.isEmpty then none else some ('&' :: inside ++ [';'], after)
    | _ => none
  | _ => none

/-- Reads an attribute value between quotes, which has no escapes. -/
def markupString? : Reader
  | c :: rest =>
    if c = '"' || c = '\'' then
      let inside := rest.takeWhile fun other => other != c
      match rest.drop inside.length with
      | closing :: after => some (c :: inside ++ [closing], after)
      | [] => none
    else none
  | [] => none

end Accord.Script
