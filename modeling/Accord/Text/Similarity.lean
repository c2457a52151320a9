/-!
# `Accord.Text.Similarity`: words that are much alike

Two words are compared by what they have in common: their longest common run, and then what
stands to the left and to the right of it, in the same way. The likeness is twice the number of
common characters over the number of all characters.
-/

set_option autoImplicit false

namespace Accord.Text

/-- How many characters two words start with in common. -/
def commonLead : List Char → List Char → Nat
  | a :: first, b :: second => if a = b then commonLead first second + 1 else 0
  | _, _ => 0

/-- A run that two words have in common: where it starts in each of them, and its length. -/
structure CommonRun where
  first : Nat
  second : Nat
  length : Nat

/-- The longest run that starts at the front of a word and anywhere in a second one from an
index on. Of several the one that starts first in the second word counts. -/
def longestLead (start : Nat) (word : List Char) (index : Nat) (best : CommonRun) :
    List Char → CommonRun
  | [] => best
  | c :: rest =>
    let length := commonLead word (c :: rest)
    longestLead start word (index + 1)
      (if best.length < length then ⟨start, index, length⟩ else best) rest

/-- The longest run that starts anywhere in a word from an index on. Of several the one that
starts first counts. -/
def longestRun (other : List Char) (start : Nat) (best : CommonRun) : List Char → CommonRun
  | [] => best
  | c :: rest =>
    longestRun other (start + 1) (longestLead start (c :: rest) 0 best other) rest

/-- How many characters two words have in common. -/
def commonCountFrom : Nat → List Char → List Char → Nat
  | 0, _, _ => 0
  | fuel + 1, first, second =>
    let run := longestRun second 0 ⟨0, 0, 0⟩ first
    if run.length = 0 then 0
    else
      commonCountFrom fuel (first.take run.first) (second.take run.second) + run.length +
        commonCountFrom fuel (first.drop (run.first + run.length))
          (second.drop (run.second + run.length))

/-- How many characters two words have in common. -/
def commonCount (first second : List Char) : Nat :=
  commonCountFrom (first.length + 1) first second

/-- A word with the number of characters that it has in common with another one, and the number
of all characters of the two. -/
structure Likeness where
  word : String
  common : Nat
  total : Nat

/-- How much a candidate is like a word. -/
def likeness (word candidate : String) : Likeness :=
  ⟨candidate, commonCount candidate.toList word.toList, candidate.length + word.length⟩

/-- Whether two words are much alike: at least three fifths. -/
def Likeness.isClose (likeness : Likeness) : Bool :=
  decide (3 * likeness.total ≤ 10 * likeness.common)

/-- The order of candidates: the most alike first, and of equals the one that is later in the
order of words. -/
def Likeness.before (first second : Likeness) : Bool :=
  let left := first.common * second.total
  let right := second.common * first.total
  decide (right < left) || (left == right && decide (second.word ≤ first.word))

/-- The candidates that are much like a word, at most three, in the order of words. -/
def closest (word : String) (candidates : List String) : List String :=
  let close := ((candidates.map (likeness word)).filter Likeness.isClose).mergeSort Likeness.before
  ((close.take 3).map Likeness.word).mergeSort fun first second => decide (first ≤ second)

end Accord.Text
