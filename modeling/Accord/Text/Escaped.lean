import Accord.Number.Hex
import Accord.Text.Printable

/-!
# `Accord.Text.Escaped`: texts in quotes, for a message

A message shows a name or a path in quotes so that its ends can be seen. The quote is chosen so
that it need not be escaped where that is possible, and characters without a glyph are written
by their code.
-/

set_option autoImplicit false

namespace Accord.Text

/-- A character inside a quoted text. -/
def quotedChar (quote c : Char) : List Char :=
  if c == quote || c == '\\' then ['\\', c]
  else if c == '\n' then ['\\', 'n']
  else if c == '\r' then ['\\', 'r']
  else if c == '\t' then ['\\', 't']
  else if isPrintable c then [c]
  else if c.toNat < 0x100 then ['\\', 'x'] ++ Number.hexPadded 2 c.toNat
  else if c.toNat < 0x10000 then ['\\', 'u'] ++ Number.hexPadded 4 c.toNat
  else ['\\', 'U'] ++ Number.hexPadded 8 c.toNat

/-- A text in quotes: single ones, or double ones when only single ones occur in it. -/
def quoted (text : String) : String :=
  let chars := text.toList
  let quote := if chars.contains '\'' && !chars.contains '"' then '"' else '\''
  String.ofList (quote :: chars.flatMap (quotedChar quote) ++ [quote])

end Accord.Text
