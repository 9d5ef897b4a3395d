/-!
# Punycode

The form of a label in ASCII: its ASCII characters, and behind the last hyphen the other
characters with their places, as numbers in a base of 36 whose digits adapt to the text.

## Main definitions

* `Punycode.encode`: the form of a label.
* `Punycode.decode?`: the label that a form stands for.
-/

namespace Matchday.Punycode

/-- The first code point that is not ASCII. -/
def firstCode : Nat := 128

/-- The bias at the start of a label. -/
def firstBias : Nat := 72

/-- The digit of a value below 36. -/
def digit (n : Nat) : Char :=
  if n < 26 then Char.ofNat ('a'.toNat + n) else Char.ofNat ('0'.toNat + (n - 26))

/-- The value of a digit of base 36. -/
def digitValue? (c : Char) : Option Nat :=
  if 'a' ≤ c && c ≤ 'z' then some (c.toNat - 'a'.toNat)
  else if 'A' ≤ c && c ≤ 'Z' then some (c.toNat - 'A'.toNat)
  else if c.isDigit then some (c.toNat - '0'.toNat + 26)
  else none

/-- The least value of a digit that is not the last one of its number, at step `k`. -/
def threshold (bias k : Nat) : Nat :=
  max 1 (min 26 (k - bias))

theorem threshold_pos (bias k : Nat) : 0 < threshold bias k := by
  unfold threshold; omega

/-- The digits of a number from step `k` on. -/
def numberDigits (bias k n : Nat) : List Char :=
  let t := threshold bias k
  if n < t then [digit n]
  else digit (t + (n - t) % (36 - t)) :: numberDigits bias (k + 36) ((n - t) / (36 - t))
termination_by n
decreasing_by
  have h := threshold_pos bias k
  have h' := Nat.div_le_self (n - threshold bias k) (36 - threshold bias k)
  omega

/-- Divides a large number until it is small, counting the steps. -/
def shrink (k n : Nat) : Nat × Nat :=
  if 455 < n then shrink (k + 36) (n / 35) else (k, n)
termination_by n

/-- The bias for the next number, from the number just written and the characters so far. -/
def adapt (isFirst : Bool) (n count : Nat) : Nat :=
  let n := if isFirst then n / 700 else n / 2
  let (k, n) := shrink 0 (n + n / count)
  k + 36 * n / (n + 38)

/-- The state while a label is written. -/
structure Writer where
  code : Nat := firstCode
  delta : Nat := 0
  bias : Nat := firstBias
  /-- The number of characters written. -/
  count : Nat
  isFirst : Bool := true
  output : List Char := []

/-- Passes one character of the label while the characters of one code point are written. -/
def Writer.pass (w : Writer) (c : Char) : Writer :=
  if c.toNat < w.code then { w with delta := w.delta + 1 }
  else if c.toNat = w.code then
    { w with
      output := w.output ++ numberDigits w.bias 36 w.delta
      bias := adapt w.isFirst w.delta (w.count + 1)
      delta := 0
      count := w.count + 1
      isFirst := false }
  else w

/-- Writes all characters of one code point. -/
def Writer.writeCode (label : List Char) (w : Writer) (code : Nat) : Writer :=
  let start := { w with code, delta := w.delta + (code - w.code) * (w.count + 1) }
  let w := label.foldl Writer.pass start
  { w with code := code + 1, delta := w.delta + 1 }

/-- The code points beyond ASCII in a label, ascending, each once. -/
def codes (label : List Char) : List Nat :=
  (((label.map Char.toNat).filter (firstCode ≤ ·)).mergeSort (· ≤ ·)).eraseDups

/-- The form of a label. -/
def encode (label : List Char) : List Char :=
  let ascii := label.filter fun c => c.toNat < firstCode
  let w := (codes label).foldl (Writer.writeCode label) { count := ascii.length }
  ascii ++ (if ascii.isEmpty then [] else ['-']) ++ w.output

/-- The state while a form is read. -/
structure Reader where
  code : Nat := firstCode
  place : Nat := 0
  bias : Nat := firstBias
  output : List Char
  /-- The value so far of the number being read, and the weight of its next digit. -/
  number : Nat := 0
  weight : Nat := 1
  step : Nat := 36
  isFirst : Bool := true

/-- Puts a character where a number that was read says. -/
def Reader.finish? (r : Reader) (number : Nat) : Option Reader :=
  let count := r.output.length + 1
  let place := r.place + number
  let code := r.code + place / count
  if code.isValidChar then
    some {
      code
      place := place % count + 1
      bias := adapt r.isFirst number count
      output := r.output.insertIdx (place % count) (Char.ofNat code)
      isFirst := false }
  else none

/-- Reads the digits of the numbers. -/
def Reader.run? (r : Reader) : List Char → Option (List Char)
  | [] => if r.weight = 1 then some r.output else none
  | c :: cs => do
    let d ← digitValue? c
    let number := r.number + d * r.weight
    let t := threshold r.bias r.step
    if d < t then run? (← r.finish? number) cs
    else run? { r with number, weight := r.weight * (36 - t), step := r.step + 36 } cs

/-- The label that a form stands for. -/
def decode? (form : List Char) : Option (List Char) :=
  let tail := (form.reverse.takeWhile (· != '-')).reverse
  if form.contains '-' then
    Reader.run? { output := form.take (form.length - tail.length - 1) } tail
  else Reader.run? { output := [] } form

end Matchday.Punycode
