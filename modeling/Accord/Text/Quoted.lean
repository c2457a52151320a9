/-!
# `Accord.Text.Quoted`: texts between quotes

A text is quoted when it starts and ends with the same quote: a single quote, a double quote or
a backquote. `unquote` takes the two quotes away and leaves every other text as it is; escapes
inside the quotes stay as they are spelled.
-/

set_option autoImplicit false

namespace Accord.Text

/-- The characters that open and close a quoted text. -/
def isQuote (c : Char) : Bool :=
  c == '\'' || c == '"' || c == '`'

/-- The characters between the quotes, or all of them when the text is not quoted. -/
def unquoteChars : List Char → List Char
  | [] => []
  | first :: rest =>
    if isQuote first && rest.getLast? == some first then rest.dropLast else first :: rest

/-- A text without the quotes around it. -/
def unquote (text : String) : String :=
  String.ofList (unquoteChars text.toList)

end Accord.Text
