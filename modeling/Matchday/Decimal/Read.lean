import Matchday.Decimal.Binary

/-!
# Reading decimals

## Main definitions

* `Decimal.digitsValue`: the number that a list of digits writes.
* `Decimal.read?`: a decimal as a command line gives it, with sign, point, exponent, and the words
  for infinity and for the missing number.
-/

namespace Matchday.Decimal

/-- The value of decimal digits, most significant first. -/
def digitsValue (cs : List Char) : Nat :=
  cs.foldl (fun n c => 10 * n + (c.toNat - '0'.toNat)) 0

/-- An optional sign; `true` for a minus. -/
def readSign : List Char → Bool × List Char
  | '-' :: cs => (true, cs)
  | '+' :: cs => (false, cs)
  | cs => (false, cs)

/-- The exponent after `e` or `E`, to the end of the text. -/
def readExponent? : List Char → Option Int
  | [] => some 0
  | c :: cs =>
    if c = 'e' || c = 'E' then
      let (negative, digits) := readSign cs
      if digits ≠ [] && digits.all Char.isDigit then
        some (if negative then -(digitsValue digits) else digitsValue digits)
      else none
    else none

/-- Digits with at most one point among or beside them, then an optional exponent. -/
def readNumber? (negative : Bool) (cs : List Char) : Option Float :=
  let whole := cs.takeWhile Char.isDigit
  let rest := cs.dropWhile Char.isDigit
  let (fraction, rest) := match rest with
    | '.' :: rest => (rest.takeWhile Char.isDigit, rest.dropWhile Char.isDigit)
    | rest => ([], rest)
  if whole = [] && fraction = [] then none
  else (readExponent? rest).map fun e =>
    toDouble negative (digitsValue (whole ++ fraction)) (e - fraction.length)

/-- A decimal number, or `inf`, `infinity` or `nan` in letters of either case. -/
def read? (s : String) : Option Float :=
  let (negative, cs) := readSign s.toList
  let word := String.ofList (cs.map Char.toLower)
  if word = "inf" || word = "infinity" then some (infinite negative)
  else if word = "nan" then some (0.0 / 0.0)
  else readNumber? negative cs

end Matchday.Decimal
