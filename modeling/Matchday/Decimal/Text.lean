import Matchday.Decimal.Shortest

/-!
# Writing floating-point numbers

Ways to write a double: without an exponent, with an exponent when the number is very large
or very small, and rounded to a fixed number of places.

## Main definitions

* `Decimal.plain`: the shortest digits, never an exponent, no point after a whole number.
* `Decimal.withExponent`, `Decimal.withBarePower`: the shortest digits, always a point or an
  exponent.
* `Decimal.fixed`: a fixed number of places, a half going to the even neighbour.
-/

namespace Matchday.Decimal

/-- A sign, then the text of the magnitude; infinity and the missing number have words. -/
def signed (finite : Nat → Int → List Char) (x : Float) : String :=
  let sign := if isNegative x then ['-'] else []
  match magnitude x with
  | .finite mantissa exponent => String.ofList (sign ++ finite mantissa exponent)
  | .infinite => String.ofList (sign ++ "inf".toList)
  | .notANumber => "NaN"

/-- The digits with the point at its place and no exponent. -/
def positional (d : Scaled) : List Char :=
  let digits := d.text
  let point := d.point
  if point ≤ 0 then '0' :: '.' :: List.replicate (-point).toNat '0' ++ digits
  else if digits.length ≤ point.toNat then
    digits ++ List.replicate (point.toNat - digits.length) '0'
  else digits.take point.toNat ++ '.' :: digits.drop point.toNat

/-- The digits with a point after the first one, then a power of ten.  `plus` is the sign of a power
that is not negative. -/
def scientific (plus : List Char) (d : Scaled) : List Char :=
  let power := d.point - 1
  let digits := match d.text with
    | [] => []
    | [c] => [c]
    | c :: cs => c :: '.' :: cs
  digits ++ 'e' :: (if power < 0 then ['-'] else plus) ++ Nat.toDigits 10 power.natAbs

/-- The shortest text of a double without an exponent. -/
def plain (x : Float) : String :=
  signed (fun m e => if m = 0 then ['0'] else positional (shortest .toUpper m e)) x

/-- The shortest text of a double that shows it is not an integer.  The point stays within the
digits or next to them from `0.00001` up to sixteen places; beyond, a power of ten follows. -/
def withExponent (x : Float) : String :=
  signed (fun m e =>
    if m = 0 then "0.0".toList
    else
      let d := shortest .toEven m e
      if d.point ≤ -5 || d.point > 16 then scientific ['+'] d
      else if d.exponent ≥ 0 then positional d ++ ".0".toList
      else positional d) x

/-- The shortest text of a double that shows it is not an integer, as logs show it: a power of ten
follows already below `0.0001`, and no plus leads it in. -/
def withBarePower (x : Float) : String :=
  signed (fun m e =>
    if m = 0 then "0.0".toList
    else
      let d := shortest .toUpper m e
      if d.point ≤ -4 || d.point > 16 then scientific [] d
      else if d.exponent ≥ 0 then positional d ++ ".0".toList
      else positional d) x

/-- The text of a double rounded to `places` places, computed on its exact value. -/
def fixed (places : Nat) (x : Float) : String :=
  signed (fun m e =>
    let (num, den) := binaryQuotient m e
    let digits := Nat.toDigits 10 (roundHalfEven (num * power 10 places) den)
    let digits := List.replicate (places + 1 - digits.length) '0' ++ digits
    let whole := digits.length - places
    if places = 0 then digits else digits.take whole ++ '.' :: digits.drop whole) x

end Matchday.Decimal
