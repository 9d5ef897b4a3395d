import Matchday.Json.Error

/-!
# Texts to read

A text is read as a list of characters.  Bytes that are no part of a character stand in the list
as `none`: they are allowed in skipped values and nowhere else.

## Main definitions

* `Json.Source`: a text to read.
* `Json.Source.ofBytes`: the text in a file.
* `Json.Reader`: takes a value from the start of a text and leaves the rest.
* `Json.blanks`, `Json.word`, `Json.quad?`: the smallest pieces.
-/

namespace Matchday.Json

/-- Characters, and `none` for each byte that is not part of one. -/
abbrev Source := List (Option Char)

namespace Source

/-- The characters of a text. -/
def ofString (s : String) : Source :=
  s.toList.map some

/-- The character at the start of some bytes, and the number of its further bytes. -/
def decodeChar? : List UInt8 → Option (Char × Nat)
  | [] => none
  | b :: bs =>
    let length := if b < 0x80 then 1 else if b < 0xE0 then 2 else if b < 0xF0 then 3 else 4
    (String.fromUTF8? ⟨((b :: bs).take length).toArray⟩).bind fun s =>
      s.toList.head?.map fun c => (c, length - 1)

/-- Takes the bytes apart, `skip` bytes belonging to the character before. -/
def decodeBytes : (skip : Nat) → List UInt8 → Source
  | _, [] => []
  | skip + 1, _ :: bs => decodeBytes skip bs
  | 0, b :: bs =>
    match decodeChar? (b :: bs) with
    | some (c, more) => some c :: decodeBytes more bs
    | none => none :: decodeBytes 0 bs

/-- The text that some bytes encode. -/
def ofBytes (bytes : ByteArray) : Source :=
  match String.fromUTF8? bytes with
  | some s => ofString s
  | none => decodeBytes 0 bytes.toList

/-- The number of bytes of a text. -/
def byteSize : Source → Nat
  | [] => 0
  | some c :: src => c.utf8Size + byteSize src
  | none :: src => 1 + byteSize src

end Source

/-- Takes a value from the start of a text and leaves the rest; the first error ends the reading. -/
abbrev Reader := StateT Source (Except ReadError)

/-- Blanks that may stand around any piece of a text. -/
def isSpace (c : Option Char) : Bool :=
  c == some ' ' || c == some '\n' || c == some '\t' || c == some '\r'

/-- The next character past blanks. -/
def next? : Reader (Option (Option Char)) := fun src =>
  let src := src.dropWhile isSpace
  .ok (src.head?, src)

/-- Leaves out the character that `next?` has shown. -/
def advance : Reader Unit := fun src => .ok ((), src.tail)

/-- The rest of a word such as `null` whose first letter is gone. -/
def word : List Char → Reader Unit
  | [] => pure ()
  | c :: cs => fun
    | [] => .error .endInValue
    | x :: src => if x = some c then word cs src else .error .expectedWord

/-- Whether a character is a decimal digit. -/
def isDigit : Option Char → Bool
  | some c => c.isDigit
  | none => false

/-- The value of a hexadecimal digit. -/
def hexDigit? : Option Char → Option Nat
  | some c =>
    if c.isDigit then some (c.toNat - '0'.toNat)
    else if 'a' ≤ c && c ≤ 'f' then some (c.toNat - 'a'.toNat + 10)
    else if 'A' ≤ c && c ≤ 'F' then some (c.toNat - 'A'.toNat + 10)
    else none
  | none => none

/-- Four hexadecimal digits at the start of a text.  With fewer than four bytes left the text is
said to end. -/
def quad (src : Source) : Except ReadError Nat :=
  match (src.take 4).map hexDigit? with
  | [some a, some b, some c, some d] => .ok (((a * 16 + b) * 16 + c) * 16 + d)
  | _ => .error (if src.byteSize < 4 then .endInText else .invalidEscape)

/-- The character that a one-letter escape stands for. -/
def shortEscape? : Char → Option Char
  | '"' => some '"'
  | '\\' => some '\\'
  | '/' => some '/'
  | 'b' => some '\x08'
  | 'f' => some '\x0c'
  | 'n' => some '\n'
  | 'r' => some '\r'
  | 't' => some '\t'
  | _ => none

/-- Whether sixteen bits are the first half of a character. -/
def isLeadingSurrogate (n : Nat) : Bool := 0xD800 ≤ n && n ≤ 0xDBFF

/-- Whether sixteen bits are the second half of a character. -/
def isTrailingSurrogate (n : Nat) : Bool := 0xDC00 ≤ n && n ≤ 0xDFFF

/-- The character of a `\u` escape whose digits are at the start of the text, and the number of
characters that the escape takes from there.  A leading surrogate wants a second escape. -/
def unicodeEscape (src : Source) : Except ReadError (Char × Nat) := do
  let n ← quad src
  if isTrailingSurrogate n then throw .loneSurrogate
  if !isLeadingSurrogate n then return (Char.ofNat n, 4)
  match src.drop 4 with
  | [] => throw .endInText
  | [some '\\'] => throw .endInText
  | some '\\' :: some 'u' :: rest =>
    let m ← quad rest
    if isTrailingSurrogate m then
      return (Char.ofNat ((n - 0xD800) * 0x400 + (m - 0xDC00) + 0x10000), 10)
    else throw .loneSurrogate
  | _ => throw .missingSurrogate

/-- The character of the escape behind a backslash, and the number of characters that the escape
takes from there. -/
def escape : Source → Except ReadError (Char × Nat)
  | [] => .error .endInText
  | some 'u' :: src => (unicodeEscape src).map fun (c, n) => (c, n + 1)
  | some c :: _ =>
    match shortEscape? c with
    | some d => .ok (d, 1)
    | none => .error .invalidEscape
  | none :: _ => .error .invalidEscape

/-- The number of characters that an escape takes when its meaning does not matter. -/
def escapeLength : Source → Except ReadError Nat
  | [] => .error .endInText
  | some 'u' :: src => (quad src).map fun _ => 5
  | some c :: _ => if (shortEscape? c).isSome then .ok 1 else .error .invalidEscape
  | none :: _ => .error .invalidEscape

/-- Characters that must not stand in a quoted text as they are. -/
def isControl : Option Char → Bool
  | some c => c.toNat < 32
  | none => false

/-- The rest of a quoted text, its first quote being gone; `skip` characters belong to an escape
already read. -/
def textUnits : (skip : Nat) → Source → Except ReadError (Source × Source)
  | _, [] => .error .endInText
  | skip + 1, _ :: src => textUnits skip src
  | 0, c :: src =>
    if c = some '"' then .ok ([], src)
    else if c = some '\\' then do
      let (d, used) ← escape src
      let (inner, rest) ← textUnits used src
      return (some d :: inner, rest)
    else if isControl c then .error .controlCharacter
    else do
      let (inner, rest) ← textUnits 0 src
      return (c :: inner, rest)

/-- The characters of a text without stray bytes. -/
def units? : Source → Option (List Char)
  | [] => some []
  | some c :: src => (units? src).map (c :: ·)
  | none :: _ => none

/-- The rest of a quoted text, which must consist of characters. -/
def textTail : Reader String := fun src => do
  let (inner, rest) ← textUnits 0 src
  match units? inner with
  | some cs => return (String.ofList cs, rest)
  | none => throw .invalidCodePoint

/-- Passes over the rest of a quoted text whose content does not matter. -/
def skipText : (skip : Nat) → Source → Except ReadError Source
  | _, [] => .error .endInText
  | skip + 1, _ :: src => skipText skip src
  | 0, c :: src =>
    if c = some '"' then .ok src
    else if c = some '\\' then do
      let used ← escapeLength src
      skipText used src
    else if isControl c then .error .controlCharacter
    else skipText 0 src

/-- Passes over the rest of a quoted text, its first quote being gone. -/
def skipTextTail : Reader Unit := fun src => (skipText 0 src).map fun rest => ((), rest)

end Matchday.Json
