/-!
# `Accord.Yaml.Break`: the ends of lines and words in YAML text

Lines end with a line feed, a next-line character or one of the two Unicode separators; the
first two count as a line feed in a value, the separators stand for themselves. The text comes
with its carriage returns replaced. The end of the text counts as the end of a line and of a
word.
-/

set_option autoImplicit false

namespace Accord.Yaml

/-- Whether a character ends a line. -/
def isBreak (c : Char) : Bool :=
  c == '\n' || c == '\u0085' || c == '\u2028' || c == '\u2029'

/-- The character that the end of a line stands for in a value. -/
def breakValue (c : Char) : Char :=
  if c == '\u0085' then '\n' else c

/-- A space or a tab. -/
def isSpacing (c : Char) : Bool :=
  c == ' ' || c == '\t'

/-- Whether a text is at the end of a line. -/
def atLineEnd : List Char → Bool
  | [] => true
  | c :: _ => isBreak c

/-- Whether a text is at a space or at the end of a line. -/
def atSpace : List Char → Bool
  | [] => true
  | c :: _ => c == ' ' || isBreak c

/-- Whether a text is at a space, a tab or the end of a line. -/
def atGap : List Char → Bool
  | [] => true
  | c :: _ => isSpacing c || isBreak c

/-- Whether a text, taken from the start of a line, is at a line that starts or ends a document. -/
def atMarker : List Char → Bool
  | '-' :: '-' :: '-' :: rest => atGap rest
  | '.' :: '.' :: '.' :: rest => atGap rest
  | _ => false

/-- What the ends of several lines in a row stand for inside a scalar: one line feed joins two lines
with a space, and before empty lines it is dropped. -/
def folded (first : Char) (more : List Char) : List Char :=
  if first ≠ '\n' then first :: more else if more.isEmpty then [' '] else more

/-- The text after an optional comment, up to the end of the line. -/
def skipComment : List Char → List Char
  | '#' :: rest => rest.dropWhile fun c => !isBreak c
  | text => text

/-- The text after the end of a line, if the text is there. -/
def skipBreak : List Char → List Char
  | [] => []
  | c :: rest => if isBreak c then rest else c :: rest

/-- The text after a line on which nothing but spaces and a comment is left. -/
def skipIdleLine (text : List Char) : Option (List Char) :=
  let rest := skipComment (text.dropWhile (· == ' '))
  if atLineEnd rest then some (skipBreak rest) else none

end Accord.Yaml
