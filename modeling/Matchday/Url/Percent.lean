/-!
# Percent-encoding

A character that must not stand in a part of a URL is written as the bytes of its UTF-8 form, each
as a percent sign and two hexadecimal digits.

## Main definitions

* `Url.percentEncode`: encodes the characters of a class and all beyond ASCII.
* `Url.percentDecode`: the bytes that a text stands for.
* `Url.inFragment`, `Url.inQuery`, `Url.inPath`: what is encoded in the parts of a URL.
* `Url.formEncode`: the encoding of keys and values in a query.
-/

namespace Matchday.Url

/-- A hexadecimal digit in upper case. -/
def hexDigit (n : Nat) : Char :=
  if n < 10 then Char.ofNat ('0'.toNat + n) else Char.ofNat ('A'.toNat + (n - 10))

/-- A byte as a percent sign and two digits. -/
def percentByte (b : UInt8) : List Char :=
  ['%', hexDigit (b.toNat / 16), hexDigit (b.toNat % 16)]

/-- The bytes of a character, each behind a percent sign. -/
def percentChar (c : Char) : List Char :=
  (String.utf8EncodeChar c).flatMap percentByte

/-- Encodes the characters of a class, and all beyond ASCII. -/
def percentEncode (encoded : Char → Bool) (cs : List Char) : List Char :=
  cs.flatMap fun c => if 128 ≤ c.toNat || encoded c then percentChar c else [c]

/-- The value of a hexadecimal digit. -/
def hexValue? (c : Char) : Option Nat :=
  if c.isDigit then some (c.toNat - '0'.toNat)
  else if 'a' ≤ c && c ≤ 'f' then some (c.toNat - 'a'.toNat + 10)
  else if 'A' ≤ c && c ≤ 'F' then some (c.toNat - 'A'.toNat + 10)
  else none

/-- The byte that two hexadecimal digits write. -/
def hexByte? (a b : Char) : Option UInt8 := do
  return UInt8.ofNat ((← hexValue? a) * 16 + (← hexValue? b))

/-- The bytes of a text whose first `skip` characters belong to an encoded byte already read. -/
def percentDecodeAfter : (skip : Nat) → List Char → List UInt8
  | _, [] => []
  | skip + 1, _ :: cs => percentDecodeAfter skip cs
  | 0, c :: cs =>
    match c, cs with
    | '%', a :: b :: _ =>
      match hexByte? a b with
      | some byte => byte :: percentDecodeAfter 2 cs
      | none => String.utf8EncodeChar c ++ percentDecodeAfter 0 cs
    | _, _ => String.utf8EncodeChar c ++ percentDecodeAfter 0 cs

/-- The bytes that a text stands for. -/
def percentDecode (cs : List Char) : List UInt8 :=
  percentDecodeAfter 0 cs

/-- Control characters of ASCII. -/
def isControl (c : Char) : Bool :=
  c.toNat < 32 || c.toNat == 127

/-- What is encoded in a fragment. -/
def inFragment (c : Char) : Bool :=
  isControl c || [' ', '"', '<', '>', Char.ofNat 96].contains c

/-- What is encoded in a query. -/
def inQuery (c : Char) : Bool :=
  isControl c || [' ', '"', '#', '<', '>', '\''].contains c

/-- What is encoded in a path. -/
def inPath (c : Char) : Bool :=
  inFragment c || ['#', '?', '{', '}'].contains c

/-- A key or a value in a query: blanks become plus signs, and letters, digits and four other
characters stay. -/
def formEncode (s : String) : String :=
  String.ofList <| s.toList.flatMap fun c =>
    if c = ' ' then ['+']
    else if c.isAlphanum || ['*', '-', '.', '_'].contains c then [c]
    else percentChar c

end Matchday.Url
