import Matchday.Url.Percent

/-!
# Numeric addresses

## Main definitions

* `Url.readIpv4`, `Url.ipv4Text`: addresses of four bytes.
* `Url.readIpv6`, `Url.ipv6Text`: addresses of eight groups.
* `Url.endsInNumber`: whether a host name must be an address of four bytes.
-/

namespace Matchday.Url

/-- The texts between the occurrences of a character. -/
def splitOn (sep : Char) : List Char → List (List Char)
  | [] => [[]]
  | c :: cs =>
    if c = sep then [] :: splitOn sep cs
    else
      match splitOn sep cs with
      | [] => [[c]]
      | part :: parts => (c :: part) :: parts

/-- The number that digits of a base write. -/
def readBase? (base : Nat) (cs : List Char) : Option Nat :=
  cs.foldlM (fun n c => do
    let d ← hexValue? c
    if d < base then some (n * base + d) else none) 0

/-- A number in one of three bases: hexadecimal behind `0x`, octal behind `0`, else decimal. -/
def readNumber? : List Char → Option Nat
  | [] => none
  | '0' :: 'x' :: cs => readBase? 16 cs
  | '0' :: 'X' :: cs => readBase? 16 cs
  | '0' :: c :: cs => readBase? 8 (c :: cs)
  | cs => readBase? 10 cs

/-- Leaves out an empty part at the end. -/
def dropLastEmpty (parts : List (List Char)) : List (List Char) :=
  if 2 ≤ parts.length && parts.getLast? == some [] then parts.dropLast else parts

/-- Whether the last label of a name is a number. -/
def endsInNumber (name : List Char) : Bool :=
  match (dropLastEmpty (splitOn '.' name)).getLast? with
  | none => false
  | some last =>
    (!last.isEmpty && last.all Char.isDigit) || (readNumber? last).isSome

/-- The weight of a byte with so many bytes after it. -/
def bytePlace (after : Nat) : Nat :=
  Nat.pow 256 after

/-- The value of the parts before the last, one byte each. -/
def leadingBytes? : List Nat → Option Nat
  | [] => some 0
  | n :: ns => do
    let rest ← leadingBytes? ns
    if n ≤ 255 then some (n * bytePlace ns.length + rest) else none

/-- An address of four bytes.  The last number fills the bytes that are left. -/
def readIpv4? (name : List Char) : Option Nat := do
  let numbers ← (dropLastEmpty (splitOn '.' name)).mapM readNumber?
  let last ← numbers.getLast?
  let first := numbers.dropLast
  let left := 4 - first.length
  if 4 < numbers.length || bytePlace left ≤ last then none
  else
    let high ← leadingBytes? first
    some (high * bytePlace left + last)

/-- The text of an address of four bytes. -/
def ipv4Text (n : Nat) : String :=
  ".".intercalate ([3, 2, 1, 0].map fun place => (n / bytePlace place % 256).repr)

/-- A decimal byte without leading zeros. -/
def readByte? (cs : List Char) : Option Nat :=
  match cs with
  | [] => none
  | '0' :: _ :: _ => none
  | cs => (readBase? 10 cs).filter (· ≤ 255)

/-- The two groups that an address of four bytes at the end stands for. -/
def readTail? (cs : List Char) : Option (List Nat) := do
  match (← (splitOn '.' cs).mapM readByte?) with
  | [a, b, c, d] => some [a * 256 + b, c * 256 + d]
  | _ => none

/-- The number of groups, a gap counting as one. -/
def countGroups (groups : List Nat) (gap : Option Nat) : Nat :=
  groups.length + gap.toList.length

/-- Reads groups and at most one gap.  `groups` are read already, and `gap` is the place of the
gap among them. -/
def readGroups? : (fuel : Nat) → List Char → List Nat → Option Nat →
    Option (List Nat × Option Nat)
  | 0, _, _, _ => none
  | fuel + 1, cs, groups, gap =>
    match cs with
    | [] => some (groups, gap)
    | c :: rest =>
      if countGroups groups gap = 8 then none
      else if c = ':' then
        if gap.isSome then none else readGroups? fuel rest groups (some groups.length)
      else
        let digits := (cs.take 4).takeWhile fun d => (hexValue? d).isSome
        let value := (readBase? 16 digits).getD 0
        match cs.drop digits.length with
        | [] => readGroups? fuel [] (groups ++ [value]) gap
        | '.' :: _ =>
          if digits.isEmpty || 6 < countGroups groups gap then none
          else (readTail? cs).map fun tail => (groups ++ tail, gap)
        | ':' :: rest =>
          if rest.isEmpty then none else readGroups? fuel rest (groups ++ [value]) gap
        | _ => none

/-- All eight groups, the gap filled with zeros. -/
def fillGap? : List Nat × Option Nat → Option (List Nat)
  | (groups, none) => if groups.length = 8 then some groups else none
  | (groups, some gap) =>
    if groups.length ≤ 7 then
      some (groups.take gap ++ List.replicate (8 - groups.length) 0 ++ groups.drop gap)
    else none

/-- An address of eight groups. -/
def readIpv6? (cs : List Char) : Option (List Nat) :=
  match cs with
  | [] => none
  | [_] => none
  | ':' :: ':' :: rest => (readGroups? 10 rest [] (some 0)).bind fillGap?
  | ':' :: _ => none
  | cs => (readGroups? 10 cs [] none).bind fillGap?

/-- The number of zeros at the start of a list. -/
def zeroRun (groups : List Nat) : Nat :=
  (groups.takeWhile (· == 0)).length

/-- Place and length of the longest run of at least two zeros, the first of several. -/
def longestRun (groups : List Nat) : Option (Nat × Nat) :=
  ((List.range groups.length).map fun i => (i, zeroRun (groups.drop i))).foldl
    (fun best (i, n) =>
      if n < 2 then best
      else
        match best with
        | some (_, m) => if m < n then some (i, n) else best
        | none => some (i, n)) none

/-- The text of some groups of an address of eight groups. -/
def groupsText (groups : List Nat) : String :=
  ":".intercalate (groups.map fun g => String.ofList (Nat.toDigits 16 g))

/-- An address with its longest run of zeros left out. -/
def ipv6Text (groups : List Nat) : String :=
  match longestRun groups with
  | none => groupsText groups
  | some (i, n) => groupsText (groups.take i) ++ "::" ++ groupsText (groups.drop (i + n))

end Matchday.Url
