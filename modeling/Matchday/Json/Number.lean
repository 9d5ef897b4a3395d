import Matchday.Decimal.Read
import Matchday.Json.Source

/-!
# Numbers in JSON texts

An integer is exact while it fits 64 bits, signed below zero and unsigned above; any other number
becomes floating point.  A floating-point number is computed from at most 64 bits of digits and
one power of ten.  Minus zero is floating point.

## Main definitions

* `Json.Number`: an integer or a floating-point number.
* `Json.number`: reads a number.
* `Json.skipNumber`: passes over a number whose value does not matter.
-/

namespace Matchday.Json

/-- A number as it is read. -/
inductive Number where
  | int (n : Int)
  | float (x : Float)
deriving Repr, Inhabited

/-- A number that stands where something else was wanted. -/
def Number.got : Number → Got
  | int n => .int n
  | float x => .float x

/-- The digits at the start of a text. -/
def digits (src : Source) : List Char :=
  (src.takeWhile isDigit).filterMap id

/-- Extends a number by digits as long as the result fits 64 bits. -/
def significand (n : Nat) : List Char → Nat × List Char
  | [] => (n, [])
  | c :: cs =>
    let extended := 10 * n + (c.toNat - '0'.toNat)
    if extended < 18446744073709551616 then significand extended cs else (n, c :: cs)

/-- The power of ten by which one step may scale. -/
def maxStep : Nat := 308

/-- The floating-point number next to a power of ten. -/
def powerOfTen (n : Nat) : Float :=
  Decimal.toDouble false 1 n

/-- Scales a number down, by the largest step as long as the exponent is beyond it. -/
def scaleDown (x : Float) : Nat → Nat → Float
  | 0, _ => x
  | fuel + 1, n =>
    if n ≤ maxStep then x / powerOfTen n
    else if x == 0 then x
    else scaleDown (x / powerOfTen maxStep) fuel (n - maxStep)

/-- The number `n * 10 ^ exponent`. -/
def scaled (negative : Bool) (n : Nat) (exponent : Int) : Except ReadError Float := do
  let x := Float.ofNat n
  let result ←
    if exponent < 0 then pure (scaleDown x 8 exponent.natAbs)
    else if exponent ≤ maxStep then
      let product := x * powerOfTen exponent.natAbs
      if product.isInf then throw .numberOutOfRange else pure product
    else if n = 0 then pure 0
    else throw .numberOutOfRange
  return if negative then -result else result

/-- What follows the sign of an exponent, if it has one. -/
def dropSign : Source → Source
  | some '-' :: src => src
  | some '+' :: src => src
  | src => src

/-- The exponent behind `e` or `E`, if there is one, then the number. -/
def withExponent (negative : Bool) (n : Nat) (exponent : Int) (src : Source) :
    Except ReadError (Number × Source) :=
  match src with
  | some c :: src' =>
    if c = 'e' || c = 'E' then
      let down := src'.head? == some (some '-')
      let src' := dropSign src'
      match src' with
      | [] => .error .endInValue
      | d :: _ =>
        if isDigit d then do
          let power := Decimal.digitsValue (digits src')
          let x ← scaled negative n (if down then exponent - power else exponent + power)
          return (.float x, src'.dropWhile isDigit)
        else .error .invalidNumber
    else do return (.float (← scaled negative n exponent), src)
  | src => do return (.float (← scaled negative n exponent), src)

/-- The digits behind a point and what follows them.  Digits that do not fit are left out. -/
def withFraction (negative : Bool) (n : Nat) (exponent : Int) (src : Source) :
    Except ReadError (Number × Source) :=
  match digits src with
  | [] => .error (if src.isEmpty then .endInValue else .invalidNumber)
  | ds =>
    let (n, left) := significand n ds
    withExponent negative n (exponent - (ds.length - left.length : Nat)) (src.dropWhile isDigit)

/-- What follows the digits before the point.  `left` are those of them that do not fit. -/
def afterWhole (negative : Bool) (n : Nat) (left : List Char) (src : Source) :
    Except ReadError (Number × Source) :=
  match src with
  | some '.' :: src => withFraction negative n left.length src
  | some 'e' :: _ => withExponent negative n left.length src
  | some 'E' :: _ => withExponent negative n left.length src
  | _ =>
    if left ≠ [] then withExponent negative n left.length src
    else if !negative then .ok (.int n, src)
    else if n = 0 || 9223372036854775808 < n then .ok (.float (-Float.ofNat n), src)
    else .ok (.int (-n), src)

/-- A number whose sign is gone. -/
def unsignedNumber (negative : Bool) : Source → Except ReadError (Number × Source)
  | [] => .error .endInValue
  | c :: src =>
    if c = some '0' then
      match src with
      | d :: _ => if isDigit d then .error .invalidNumber else afterWhole negative 0 [] src
      | [] => afterWhole negative 0 [] []
    else if isDigit c then
      let (n, left) := significand 0 (digits (c :: src))
      afterWhole negative n left (src.dropWhile isDigit)
    else .error .invalidNumber

/-- A number, at whose first character the text stands. -/
def number : Reader Number := fun
  | some '-' :: src => unsignedNumber true src
  | src => unsignedNumber false src

/-- Passes over an exponent, if there is one. -/
def skipExponent : Source → Except ReadError Source
  | some c :: src =>
    if c = 'e' || c = 'E' then
      let src := dropSign src
      if digits src = [] then .error .invalidNumber else .ok (src.dropWhile isDigit)
    else .ok (some c :: src)
  | src => .ok src

/-- Passes over the digits behind a point and an exponent, as far as they are there. -/
def skipFraction : Source → Except ReadError Source
  | some '.' :: src =>
    if digits src = [] then .error .invalidNumber else skipExponent (src.dropWhile isDigit)
  | src => skipExponent src

/-- Passes over a number whose sign is gone. -/
def skipUnsigned : Source → Except ReadError Source
  | [] => .error .invalidNumber
  | c :: src =>
    if !isDigit c || (c = some '0' && digits src ≠ []) then .error .invalidNumber
    else skipFraction (src.dropWhile isDigit)

/-- Passes over a number, at whose first character the text stands. -/
def skipNumber : Reader Unit := fun
  | some '-' :: src => (skipUnsigned src).map fun src => ((), src)
  | src => (skipUnsigned src).map fun src => ((), src)

end Matchday.Json
