import Accord.Text.Ranges

/-!
# `Accord.Text.Blank`: white space and the words between it

`isBlank` is the white space of Unicode, the four information separators included. `words` cuts
a text at runs of blanks, and `squash` writes the words with one space between them, so that two
layouts of one text compare equal.
-/

set_option autoImplicit false

namespace Accord.Text

/-- The blanks: the Unicode white space characters and U+001C to U+001F. -/
def blankRanges : Ranges :=
  [(0x9, 0xd), (0x1c, 0x20), (0x85, 0x85), (0xa0, 0xa0), (0x1680, 0x1680),
    (0x2000, 0x200a), (0x2028, 0x2029), (0x202f, 0x202f), (0x205f, 0x205f), (0x3000, 0x3000)]

/-- Whether a character separates words. -/
def isBlank (c : Char) : Bool :=
  blankRanges.covers c

/-- The maximal runs of characters that are no blanks, in order. `word` is the run read so far. -/
def wordsFrom (word : List Char) : List Char → List (List Char)
  | [] => if word.isEmpty then [] else [word]
  | c :: rest =>
    if isBlank c then
      if word.isEmpty then wordsFrom [] rest else word :: wordsFrom [] rest
    else wordsFrom (word ++ [c]) rest

/-- The words of a text: its maximal runs of characters that are no blanks. -/
def words (text : String) : List String :=
  (wordsFrom [] text.toList).map String.ofList

/-- A text with every run of blanks written as one space and none at its ends. -/
def squash (text : String) : String :=
  String.intercalate " " (words text)

/-- A text without its blanks. -/
def unspaced (text : String) : String :=
  String.ofList (text.toList.filter fun c => !isBlank c)

end Accord.Text
