/-!
# `Accord.Number.Binary64`: binary floating-point values

A value is an exact product `mantissa · 2 ^ exponent` with a sign, an infinity, or no number at
all. `ofDecimal` gives the value nearest to a decimal numeral, a half going to the even
neighbour. The mantissa has 53 bits, and fewer only where the exponent is at its least, so that
every value is written in one way.
-/

set_option autoImplicit false

namespace Accord.Number

/-- A binary floating-point value of 64 bits. -/
inductive Binary64 where
  /-- The number `mantissa · 2 ^ exponent`, below zero when `negative` is set. -/
  | finite (negative : Bool) (mantissa : Nat) (exponent : Int)
  /-- What is too large for a finite value. -/
  | infinite (negative : Bool)
  /-- No number. -/
  | nan
  deriving DecidableEq, Repr

/-- The quotient rounded to the nearest whole number, a half to the even one. -/
def roundHalfEven (numerator denominator : Nat) : Nat :=
  let quotient := numerator / denominator
  let twice := 2 * (numerator % denominator)
  if denominator < twice || (twice == denominator && quotient % 2 == 1) then quotient + 1
  else quotient

namespace Binary64

/-- The least exponent, that of the smallest value above zero. -/
def minExponent : Int := -1074

/-- The greatest exponent of a mantissa of 53 bits. -/
def maxExponent : Int := 971

/-- The exponent of `base` of a factor above the fraction bar. -/
def factorAbove (base : Nat) (exponent : Int) : Nat :=
  Nat.pow base exponent.toNat

/-- The exponent of `base` of a factor below the fraction bar. -/
def factorBelow (base : Nat) (exponent : Int) : Nat :=
  Nat.pow base (-exponent).toNat

/-- The value nearest to a fraction above zero. -/
def ofFraction (negative : Bool) (numerator denominator : Nat) : Binary64 :=
  let guess : Int := (Nat.log2 numerator : Int) - Nat.log2 denominator
  -- The fraction lies between 2 ^ (guess - 1) and 2 ^ (guess + 1).
  let top : Int :=
    if denominator * factorAbove 2 guess ≤ numerator * factorBelow 2 guess then guess
    else guess - 1
  let exponent := max (top - 52) minExponent
  let mantissa :=
    roundHalfEven (numerator * factorBelow 2 exponent) (denominator * factorAbove 2 exponent)
  -- Rounding up can fill the 54th bit.
  let (mantissa, exponent) :=
    if mantissa = Nat.pow 2 53 then (Nat.pow 2 52, exponent + 1) else (mantissa, exponent)
  if maxExponent < exponent then .infinite negative else .finite negative mantissa exponent

/-- The number of digits of a number in base ten. -/
def digitCount (n : Nat) : Nat :=
  (Nat.toDigits 10 n).length

/-- The value nearest to `digits · 10 ^ exponent`. Numerals beyond all finite values and numerals
that round to zero are decided by their size, before any power is taken. -/
def ofDecimal (negative : Bool) (digits : Nat) (exponent : Int) : Binary64 :=
  if digits = 0 then .finite negative 0 minExponent
  else
    let magnitude := exponent + digitCount digits
    if 400 < magnitude then .infinite negative
    else if magnitude < -400 then .finite negative 0 minExponent
    else
      ofFraction negative (digits * factorAbove 10 exponent) (factorBelow 10 exponent)

/-- The whole number that a value is, if it is one. -/
def toInt? : Binary64 → Option Int
  | .finite negative mantissa exponent =>
    let above := mantissa * factorAbove 2 exponent
    let below := factorBelow 2 exponent
    if above % below = 0 then
      let whole : Int := (above / below : Nat)
      some (if negative then -whole else whole)
    else none
  | .infinite _ => none
  | .nan => none

/-- Whether the value is zero, of either sign. -/
def isZero : Binary64 → Bool
  | .finite _ mantissa _ => mantissa == 0
  | _ => false

end Binary64

end Accord.Number
