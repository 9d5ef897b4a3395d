/-!
# Floating-point numbers as scaled integers

A finite double is a sign and a magnitude `mantissa * 2 ^ exponent`.  All rounding in this library
is done on such pairs with natural numbers, never with floating-point operations.

## Main definitions

* `Decimal.Magnitude`, `Decimal.magnitude`: the parts of a double.
* `Decimal.roundHalfEven`: a quotient rounded to the nearest integer, halves to the even one.
* `Decimal.nearestDouble`: the double nearest to a quotient.
-/

namespace Matchday.Decimal

/-- The size of a double, its sign left aside. -/
inductive Magnitude where
  | finite (mantissa : Nat) (exponent : Int)
  | infinite
  | notANumber
deriving Repr, DecidableEq

/-- The size of a double, read from its bits. -/
def magnitude (x : Float) : Magnitude :=
  let bits := x.toBits.toNat
  let fraction := bits % Nat.pow 2 52
  let exponent : Nat := bits / Nat.pow 2 52 % Nat.pow 2 11
  if exponent = 2047 then
    if fraction = 0 then .infinite else .notANumber
  else if exponent = 0 then .finite fraction (-1074)
  else .finite (Nat.pow 2 52 + fraction) ((exponent : Int) - 1075)

/-- Whether the sign bit is set; it can be set on a zero. -/
def isNegative (x : Float) : Bool :=
  x.toBits.toNat / Nat.pow 2 63 == 1

/-- The integer nearest to `num / den`, a half going to the even neighbour. -/
def roundHalfEven (num den : Nat) : Nat :=
  let quotient := num / den
  let twice := 2 * (num % den)
  if twice < den || (twice == den && quotient % 2 == 0) then quotient else quotient + 1

/-- `base ^ e`, or one when `e` is negative. -/
def power (base : Nat) (e : Int) : Nat :=
  Nat.pow base e.toNat

/-- `n * 2 ^ e` as a quotient of natural numbers. -/
def binaryQuotient (n : Nat) (e : Int) : Nat × Nat :=
  (n * power 2 e, power 2 (-e))

/-- `n * 10 ^ e` as a quotient of natural numbers. -/
def decimalQuotient (n : Nat) (e : Int) : Nat × Nat :=
  (n * power 10 e, power 10 (-e))

/-- The bits of the positive double nearest to `num / den`, halves to the even mantissa; beyond
the largest double they are the bits of infinity. -/
def nearestBits (num den : Nat) : Nat :=
  let top : Int := num.log2 - den.log2
  let top := if decide (num * power 2 (-top) < den * power 2 top) then top - 1 else top
  let exponent := max (top - 52) (-1074)
  let mantissa := roundHalfEven (num * power 2 (-exponent)) (den * power 2 exponent)
  min ((exponent + 1074).toNat * Nat.pow 2 52 + mantissa) (2047 * Nat.pow 2 52)

/-- The double with a sign and the bits of a magnitude. -/
def ofMagnitudeBits (negative : Bool) (bits : Nat) : Float :=
  Float.ofBits (UInt64.ofNat (bits + if negative then Nat.pow 2 63 else 0))

/-- The double nearest to the quotient `num / den`. -/
def nearestDouble (negative : Bool) (num den : Nat) : Float :=
  ofMagnitudeBits negative (if num = 0 then 0 else nearestBits num den)

/-- Infinity with a sign. -/
def infinite (negative : Bool) : Float :=
  ofMagnitudeBits negative (2047 * Nat.pow 2 52)

/-- The double nearest to `digits * 10 ^ exponent`.  An exponent far outside the range of doubles
is decided by size alone. -/
def toDouble (negative : Bool) (digits : Nat) (exponent : Int) : Float :=
  let places : Int := (Nat.toDigits 10 digits).length + exponent
  if digits = 0 || places < -400 then nearestDouble negative 0 1
  else if places > 400 then infinite negative
  else
    let (num, den) := decimalQuotient digits exponent
    nearestDouble negative num den

end Matchday.Decimal
