import Matchday.Decimal.Read

/-!
# Values in configuration files

## Main definitions

* `Toml.Value`: a value.
* `Toml.scalar?`: the number, truth value or point in time that a word writes.
-/

namespace Matchday.Toml

/-- A value of a configuration file. -/
inductive Value where
  | text (s : String)
  | int (n : Int)
  | float (x : Float)
  | bool (b : Bool)
  /-- A date, a time or both, as it is written. -/
  | moment (s : String)
  | array (items : List Value)
  | table (entries : List (String × Value))
deriving Repr, Inhabited

/-! ### Numbers -/

/-- Digits without the underscores between them.  An underscore needs a digit on both sides. -/
def plainDigits? (isDigit : Char → Bool) : List Char → Option (List Char)
  | [] => none
  | [c] => if isDigit c then some [c] else none
  | c :: '_' :: cs => if isDigit c then (plainDigits? isDigit cs).map (c :: ·) else none
  | c :: cs => if isDigit c then (plainDigits? isDigit cs).map (c :: ·) else none

/-- The value of a digit of any base up to 36. -/
def digitValue (c : Char) : Nat :=
  if c.isDigit then c.toNat - '0'.toNat else c.toLower.toNat - 'a'.toNat + 10

/-- Whether a character is a digit of a base. -/
def isDigitOf (base : Nat) (c : Char) : Bool :=
  (c.isDigit || c.isAlpha) && digitValue c < base

/-- The number that some digits write. -/
def digitsValue (base : Nat) (cs : List Char) : Nat :=
  cs.foldl (fun n c => base * n + digitValue c) 0

/-- Decimal digits without a leading zero. -/
def wholeDigits? (cs : List Char) : Option (List Char) := do
  match ← plainDigits? Char.isDigit cs with
  | '0' :: _ :: _ => none
  | digits => some digits

/-- Integers that no field can hold must still be integers of 128 bits. -/
def isInteger (n : Int) : Bool :=
  -170141183460469231731687303715884105728 ≤ n &&
    n < 340282366920938463463374607431768211456

/-- An integer in one of four bases; only a decimal one has a sign. -/
def integer? (cs : List Char) : Option Int :=
  let based (base : Nat) (cs : List Char) : Option Int :=
    (plainDigits? (isDigitOf base) cs).map fun digits => digitsValue base digits
  let found := match cs with
    | '0' :: 'x' :: cs => based 16 cs
    | '0' :: 'o' :: cs => based 8 cs
    | '0' :: 'b' :: cs => based 2 cs
    | cs =>
      let (negative, cs) := Decimal.readSign cs
      (wholeDigits? cs).map fun digits =>
        if negative then -(digitsValue 10 digits : Int) else digitsValue 10 digits
  found.filter isInteger

/-- An exponent with its sign; leading zeros are allowed. -/
def exponent? (cs : List Char) : Option (List Char) :=
  match cs with
  | '-' :: cs => (plainDigits? Char.isDigit cs).map ('-' :: ·)
  | '+' :: cs => plainDigits? Char.isDigit cs
  | cs => plainDigits? Char.isDigit cs

/-- A part up to a mark, and what follows the mark if it is there. -/
def cut (isMark : Char → Bool) (cs : List Char) : List Char × Option (List Char) :=
  match cs.dropWhile fun c => !isMark c with
  | [] => (cs, none)
  | _ :: rest => (cs.takeWhile fun c => !isMark c, some rest)

/-- The digits of a floating-point number with point and exponent, its underscores gone. -/
def floatDigits? (cs : List Char) : Option (List Char) := do
  let (number, exponent) := cut (fun c => c == 'e' || c == 'E') cs
  let (whole, fraction) := cut (· == '.') number
  if exponent.isNone && fraction.isNone then none
  else
    let whole ← wholeDigits? whole
    let fraction ← match fraction with
      | some digits => (plainDigits? Char.isDigit digits).map ('.' :: ·)
      | none => some []
    let exponent ← match exponent with
      | some digits => (exponent? digits).map ('e' :: ·)
      | none => some []
    some (whole ++ fraction ++ exponent)

/-- A floating-point number, which must not be too large. -/
def float? (cs : List Char) : Option Float :=
  let (negative, cs) := Decimal.readSign cs
  if cs = ['i', 'n', 'f'] then Decimal.read? (if negative then "-inf" else "inf")
  else if cs = ['n', 'a', 'n'] then Decimal.read? "nan"
  else do
    let digits ← floatDigits? cs
    let x ← Decimal.readNumber? negative digits
    if x.isInf then none else some x

/-! ### Points in time -/

/-- A number of `n` digits within bounds, and what follows it. -/
def field? (n min max : Nat) (cs : List Char) : Option (Nat × List Char) :=
  let digits := cs.take n
  let value := digitsValue 10 digits
  if digits.length = n && digits.all Char.isDigit && min ≤ value && value ≤ max then
    some (value, cs.drop n)
  else none

/-- What follows a character. -/
def after? (c : Char) : List Char → Option (List Char)
  | d :: cs => if d = c then some cs else none
  | [] => none

/-- The number of days in a month. -/
def daysIn (year month : Nat) : Nat :=
  if month = 2 then
    if year % 4 = 0 && (year % 100 ≠ 0 || year % 400 = 0) then 29 else 28
  else if [4, 6, 9, 11].contains month then 30
  else 31

/-- What follows a date. -/
def afterDate? (cs : List Char) : Option (List Char) := do
  let (year, cs) ← field? 4 0 9999 cs
  let (month, cs) ← field? 2 1 12 (← after? '-' cs)
  let (_, cs) ← field? 2 1 (daysIn year month) (← after? '-' cs)
  return cs

/-- What follows a fraction of a second, if there is one. -/
def afterFraction? (cs : List Char) : Option (List Char) :=
  match cs with
  | '.' :: d :: cs => if d.isDigit then some (cs.dropWhile Char.isDigit) else none
  | '.' :: [] => none
  | cs => some cs

/-- What follows a time of day.  Seconds may be left out. -/
def afterTime? (cs : List Char) : Option (List Char) := do
  let (_, cs) ← field? 2 0 23 cs
  let (_, cs) ← field? 2 0 59 (← after? ':' cs)
  match cs with
  | ':' :: cs =>
    let (_, cs) ← field? 2 0 60 cs
    afterFraction? cs
  | cs => some cs

/-- Whether some characters are an offset from universal time. -/
def isOffset (cs : List Char) : Bool :=
  match cs with
  | ['Z'] => true
  | ['z'] => true
  | c :: cs =>
    (c == '+' || c == '-') &&
      (do
        let (_, cs) ← field? 2 0 23 cs
        let (_, cs) ← field? 2 0 59 (← after? ':' cs)
        return cs.isEmpty : Option Bool) == some true
  | [] => false

/-- Whether some characters are a date, a time, or a date and a time with or without an offset. -/
def isMoment (cs : List Char) : Bool :=
  match afterDate? cs with
  | some [] => true
  | some (c :: rest) =>
    (c == 'T' || c == 't' || c == ' ') &&
      match afterTime? rest with
      | some rest => rest.isEmpty || isOffset rest
      | none => false
  | none => afterTime? cs == some []

/-- The value that a word writes. -/
def scalar? (cs : List Char) : Option Value :=
  if cs = "true".toList then some (.bool true)
  else if cs = "false".toList then some (.bool false)
  else if isMoment cs then some (.moment (String.ofList cs))
  else
    match integer? cs with
    | some n => some (.int n)
    | none => (float? cs).map .float

end Matchday.Toml
