/-!
# `Accord.Text.Search`: a text inside a text

`holds word text` asks whether a word stands somewhere in a text. The empty word stands in every
text.
-/

set_option autoImplicit false

namespace Accord.Text

/-- Whether a word stands in a text, on their characters. -/
def holdsChars (word : List Char) : List Char → Bool
  | [] => word.isEmpty
  | c :: rest => word.isPrefixOf (c :: rest) || holdsChars word rest

/-- Whether a word stands in a text. -/
def holds (word text : String) : Bool :=
  holdsChars word.toList text.toList

end Accord.Text
