import Matchday.Decimal.Binary

/-!
# The shortest decimal of a double

Of the decimals that read back as a given double, the ones with the fewest digits are taken, and
of those the nearest to the double.  Where two are equally near, a rule chooses.

## Main definitions

* `Decimal.Tie`: which of two neighbours is taken when both are equally near.
* `Decimal.Scaled`: a decimal `digits * 10 ^ exponent`.
* `Decimal.shortest`: the shortest decimal of `mantissa * 2 ^ exponent`.
-/

namespace Matchday.Decimal

/-- The decimal `digits * 10 ^ exponent`. -/
structure Scaled where
  digits : Nat
  exponent : Int
deriving Repr, DecidableEq

namespace Scaled

/-- The decimal digits, most significant first. -/
def text (d : Scaled) : List Char :=
  Nat.toDigits 10 d.digits

/-- Where the decimal point stands, counted from before the first digit. -/
def point (d : Scaled) : Int :=
  d.text.length + d.exponent

/-- The same decimal without zeros at the end of its digits. -/
def dropZeros : Nat → Scaled → Scaled
  | 0, d => d
  | fuel + 1, d =>
    if d.digits ≠ 0 && d.digits % 10 = 0 then dropZeros fuel ⟨d.digits / 10, d.exponent + 1⟩ else d

end Scaled

/-- `a * 10 ^ e`, scaled so that it compares with `scaleBinary` of any `b * 2 ^ f`. -/
def scaleDecimal (a : Nat) (e f : Int) : Nat :=
  a * power 10 e * power 2 (-f)

/-- `b * 2 ^ f`, scaled so that it compares with `scaleDecimal` of any `a * 10 ^ e`. -/
def scaleBinary (b : Nat) (f e : Int) : Nat :=
  b * power 2 f * power 10 (-e)

/-- The number of decimal places before the point of `num / den`, negative for a quotient with
zeros after the point. -/
def pointOf (num den : Nat) : Nat → Int
  | 0 => 0
  | fuel + 1 =>
    if num ≥ den then (Nat.toDigits 10 (num / den)).length
    else pointOf (num * 10) den fuel - 1

/-- The decimals that read back as `mantissa * 2 ^ exponent` fill an interval.  Its ends are given
in quarters of a unit: half a unit up, half a unit down or, at a power of two, a quarter down. -/
structure Interval where
  low : Nat
  mid : Nat
  high : Nat
  closed : Bool

/-- The interval of `mantissa * 2 ^ exponent`. -/
def intervalOf (mantissa : Nat) (exponent : Int) : Interval where
  low := 4 * mantissa - if mantissa = Nat.pow 2 52 && exponent > -1074 then 1 else 2
  mid := 4 * mantissa
  high := 4 * mantissa + 2
  closed := mantissa % 2 = 0

/-- Whether `digits * 10 ^ e` lies in the interval, whose unit is `2 ^ f`. -/
def Interval.holds (i : Interval) (digits : Nat) (e f : Int) : Bool :=
  let value := scaleDecimal digits e f
  let low := scaleBinary i.low f e
  let high := scaleBinary i.high f e
  if i.closed then low ≤ value && value ≤ high else low < value && value < high

/-- Which of two neighbours is taken when both are equally near. -/
inductive Tie where
  | toUpper
  | toEven
deriving Repr, DecidableEq

/-- Whether the lower one of two equally near neighbours is taken. -/
def Tie.takesLower (tie : Tie) (lower : Nat) : Bool :=
  match tie with
  | toUpper => false
  | toEven => lower % 2 == 0

/-- The best decimal with steps of `10 ^ e`, when one of the two neighbours of the value lies in
the interval. -/
def Interval.nearest? (i : Interval) (tie : Tie) (e f : Int) : Option Nat :=
  let mid := scaleBinary i.mid f e
  let step := scaleDecimal 1 e f
  let down := mid / step
  let up := down + 1
  match i.holds down e f, i.holds up e f with
  | true, true =>
    let twice := 2 * (mid - down * step)
    some (if twice < step || (twice == step && tie.takesLower down) then down else up)
  | true, false => some down
  | false, true => some up
  | false, false => none

/-- Tries one digit more in each round. -/
def searchDigits (i : Interval) (tie : Tie) (f point : Int) : Nat → Nat → Scaled
  | 0, count => ⟨i.mid, count⟩
  | fuel + 1, count =>
    let e := point - count
    match i.nearest? tie e f with
    | some digits => ⟨digits, e⟩
    | none => searchDigits i tie f point fuel (count + 1)

/-- The shortest decimal that reads back as `mantissa * 2 ^ exponent`. -/
def shortest (tie : Tie) (mantissa : Nat) (exponent : Int) : Scaled :=
  if mantissa = 0 then ⟨0, 0⟩
  else
    let (num, den) := binaryQuotient mantissa exponent
    let point := pointOf num den 400
    (searchDigits (intervalOf mantissa exponent) tie (exponent - 2) point 18 1).dropZeros 20

end Matchday.Decimal
