/-!
# `Accord.Text.Pieces`: texts cut at a mark

Paths are cut at their slashes (`Files.Path`), network addresses at their colons and dots
(`Url.Host`). `cut` keeps the empty pieces, so the marks are one fewer than the pieces.
-/

set_option autoImplicit false

namespace Accord.Text

/-- The pieces of a text between the occurrences of a mark. -/
def cut (mark : Char) : List Char → List (List Char)
  | [] => [[]]
  | c :: rest =>
    if c = mark then [] :: cut mark rest
    else
      match cut mark rest with
      | [] => [[c]]
      | piece :: pieces => (c :: piece) :: pieces

end Accord.Text
