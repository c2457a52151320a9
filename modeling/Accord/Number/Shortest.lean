import Accord.Number.Binary64

/-!
# `Accord.Number.Shortest`: the fewest digits that read back

A finite value above zero is written with the fewest decimal digits that round to it again, and
of those numerals with the nearest one. The numerals that round to a value form an interval
around it; for one digit, two digits and so on the two neighbours of the value on that decimal
grid are tested against the interval, in exact arithmetic.

`text` places the digits: positionally when the first digit stands for `10 ^ -4` to `10 ^ 15`,
with an exponent of at least two digits otherwise, and always so that the text differs from that
of a whole number.
-/

set_option autoImplicit false

namespace Accord.Number

/-- A decimal numeral `digits · 10 ^ exponent`. -/
structure Decimal where
  /-- The digits, read as one number. -/
  digits : Nat
  /-- The power of ten of the last digit. -/
  exponent : Int
  deriving DecidableEq, Repr

/-- The numerals that round to a value, in quarters of its last binary place. -/
structure Interval where
  /-- The lower end. -/
  low : Nat
  /-- The value itself. -/
  mid : Nat
  /-- The upper end. -/
  high : Nat
  /-- Whether the ends round to the value too. -/
  closed : Bool

/-- The interval of the value `mantissa · 2 ^ exponent`. Below a power of two the next value is only
half as far away. -/
def Interval.ofMantissa (mantissa : Nat) (exponent : Int) : Interval :=
  let narrow := mantissa == Nat.pow 2 52 && decide (Binary64.minExponent < exponent)
  { low := 4 * mantissa - (if narrow then 1 else 2)
    mid := 4 * mantissa
    high := 4 * mantissa + 2
    closed := mantissa % 2 == 0 }

/-- The numeral on the grid `10 ^ grid` that lies in the interval, the nearest one if there are
two. -/
def onGrid (interval : Interval) (exponent grid : Int) : Option Nat :=
  let above := Binary64.factorAbove 2 (exponent - 2) * Binary64.factorBelow 10 grid
  let below := Binary64.factorBelow 2 (exponent - 2) * Binary64.factorAbove 10 grid
  let inside : Nat → Bool := fun digits =>
    if interval.closed then
      decide (interval.low * above ≤ digits * below) &&
        decide (digits * below ≤ interval.high * above)
    else
      decide (interval.low * above < digits * below) &&
        decide (digits * below < interval.high * above)
  let under := interval.mid * above / below
  let toUnder := interval.mid * above - under * below
  let toOver := (under + 1) * below - interval.mid * above
  let preferUnder :=
    decide (toUnder < toOver) || (toUnder == toOver && under % 2 == 0)
  match inside under && decide (0 < under), inside (under + 1) with
  | true, true => some (if preferUnder then under else under + 1)
  | true, false => some under
  | false, true => some (under + 1)
  | false, false => none

/-- Tries the grids with `count`, `count + 1`, … digits, `tries` of them. -/
def shortestFrom (interval : Interval) (exponent top : Int) : Nat → Nat → Option Decimal
  | 0, _ => none
  | tries + 1, count =>
    let grid := top - count
    match onGrid interval exponent grid with
    | some digits => some ⟨digits, grid⟩
    | none => shortestFrom interval exponent top tries (count + 1)

/-- The shortest numeral that rounds to `mantissa · 2 ^ exponent`. Seventeen digits are always
enough. -/
def shortest (mantissa : Nat) (exponent : Int) : Decimal :=
  let scaled :=
    mantissa * Binary64.factorAbove 2 exponent * Nat.pow 10 330 / Binary64.factorBelow 2 exponent
  -- The value lies between 10 ^ (top - 1) and 10 ^ top.
  let top : Int := (Binary64.digitCount scaled : Int) - 330
  (shortestFrom (Interval.ofMantissa mantissa exponent) exponent top 17 1).getD ⟨0, 0⟩

/-- Digits without the zeros at their end. -/
def dropTrailingZeros (digits : List Char) : List Char :=
  (digits.reverse.dropWhile (· == '0')).reverse

/-- An exponent with its sign and at least two digits. -/
def exponentText (exponent : Int) : String :=
  let digits := toString exponent.natAbs
  let padded := if digits.length < 2 then "0" ++ digits else digits
  (if exponent < 0 then "-" else "+") ++ padded

/-- Places the point among the digits. `point` is the number of digits before it; below one, zeros
are written in front. -/
def placePoint (digits : List Char) (point : Int) : String :=
  let count : Int := digits.length
  if point ≤ 0 then "0." ++ String.ofList (List.replicate (-point).toNat '0' ++ digits)
  else if count ≤ point then
    String.ofList (digits ++ List.replicate (point - count).toNat '0') ++ ".0"
  else
    String.ofList (digits.take point.toNat) ++ "." ++ String.ofList (digits.drop point.toNat)

/-- The text of a numeral. -/
def Decimal.text (decimal : Decimal) : String :=
  let all := Nat.toDigits 10 decimal.digits
  let digits := dropTrailingZeros all
  let point : Int := (all.length : Int) + decimal.exponent
  if -4 ≤ point - 1 && point - 1 < 16 then placePoint digits point
  else
    let fraction := if digits.length ≤ 1 then "" else "." ++ String.ofList (digits.drop 1)
    String.ofList (digits.take 1) ++ fraction ++ "e" ++ exponentText (point - 1)

/-- The text of a value, given the texts of what is no finite number. -/
def Binary64.text (nan infinity : String) : Binary64 → String
  | .nan => nan
  | .infinite negative => (if negative then "-" else "") ++ infinity
  | .finite negative mantissa exponent =>
    let sign := if negative then "-" else ""
    if mantissa = 0 then sign ++ "0.0" else sign ++ (shortest mantissa exponent).text

end Accord.Number
