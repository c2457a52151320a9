/-!
# `Accord.Number.Integer`: whole numbers as a person writes them

A whole number is a row of decimal digits of any script, with a sign before it at will and
single low lines between digits. Zeros may stand in front. Numbers of more digits than
`maxDigits` are neither read (`integer?`) nor written (`decimal?`).
-/

set_option autoImplicit false

namespace Accord.Number

/-- The zeros of the digit rows above U+007F; the nine digits follow each of them. -/
def zeros : List Nat :=
  [0x660, 0x6f0, 0x7c0, 0x966, 0x9e6, 0xa66, 0xae6, 0xb66, 0xbe6,
    0xc66, 0xce6, 0xd66, 0xde6, 0xe50, 0xed0, 0xf20, 0x1040, 0x1090,
    0x17e0, 0x1810, 0x1946, 0x19d0, 0x1a80, 0x1a90, 0x1b50, 0x1bb0, 0x1c40,
    0x1c50, 0xa620, 0xa8d0, 0xa900, 0xa9d0, 0xa9f0, 0xaa50, 0xabf0, 0xff10,
    0x104a0, 0x10d30, 0x11066, 0x110f0, 0x11136, 0x111d0, 0x112f0, 0x11450, 0x114d0,
    0x11650, 0x116c0, 0x11730, 0x118e0, 0x11950, 0x11c50, 0x11d50, 0x11da0, 0x16a60,
    0x16ac0, 0x16b50, 0x1d7ce, 0x1d7d8, 0x1d7e2, 0x1d7ec, 0x1d7f6, 0x1e140, 0x1e2f0,
    0x1e950, 0x1fbf0]

/-- The value of a decimal digit. -/
def digit? (c : Char) : Option Nat :=
  if c.toNat < 128 then if c.isDigit then some (c.toNat - '0'.toNat) else none
  else
    (zeros.find? fun first => first ≤ c.toNat && c.toNat < first + 10).map fun first =>
      c.toNat - first

/-- The greatest number of digits of a whole number. -/
def maxDigits : Nat := 4300

/-- Reads digits after a first one: how many there are in all and the number they spell. -/
def digitsFrom (count value : Nat) : List Char → Option (Nat × Nat)
  | [] => some (count, value)
  | '_' :: c :: rest => do digitsFrom (count + 1) (value * 10 + (← digit? c)) rest
  | c :: rest => do digitsFrom (count + 1) (value * 10 + (← digit? c)) rest

/-- The number that a row of digits spells. -/
def natural? : List Char → Option Nat
  | [] => none
  | c :: rest => do
    let (count, value) ← digitsFrom 1 (← digit? c) rest
    if maxDigits < count then none else some value

/-- The whole number that a text spells. -/
def integer? (text : String) : Option Int :=
  match text.toList with
  | '-' :: digits => (natural? digits).map fun value => -(value : Int)
  | '+' :: digits => (natural? digits).map fun value => (value : Int)
  | digits => (natural? digits).map fun value => (value : Int)

/-- The text of a whole number, unless it has more digits than `maxDigits`. -/
def decimal? (value : Int) : Option String :=
  if maxDigits < (Nat.toDigits 10 value.natAbs).length then none else some (toString value)

end Accord.Number
