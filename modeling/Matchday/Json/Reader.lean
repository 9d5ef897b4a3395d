import Matchday.Json.Basic
import Matchday.Json.Number

/-!
# Reading typed values

A JSON text is read straight into the type that is wanted, in the order of the text, and the first
thing that does not fit is reported.  Values that nobody wants are passed over, to any depth.

## Main definitions

* `Json.string`, `Json.int32`, `Json.uint32`, `Json.orNull`, `Json.list`: readers for single types.
* `Json.skipValue`: passes over a value.
* `Json.value`: reads any value, to a limited depth.
* `Json.document`: a reader for a whole text.
-/

namespace Matchday.Json

variable {α : Type}

/-- Reports the value at the reading position, where something else was wanted. -/
def unexpected (wanted : String) (c : Option Char) : Reader α := do
  if c = some 'n' then
    advance
    word ['u', 'l', 'l']
    throw (.invalidType .null wanted)
  else if c = some 't' then
    advance
    word ['r', 'u', 'e']
    throw (.invalidType (.bool true) wanted)
  else if c = some 'f' then
    advance
    word ['a', 'l', 's', 'e']
    throw (.invalidType (.bool false) wanted)
  else if c = some '-' || isDigit c then
    let n ← number
    throw (.invalidType n.got wanted)
  else if c = some '"' then
    advance
    let s ← textTail
    throw (.invalidType (.text s) wanted)
  else if c = some '[' then throw (.invalidType .array wanted)
  else if c = some '\x7b' then throw (.invalidType .object wanted)
  else throw .expectedValue

/-- A quoted text. -/
def string : Reader String := do
  match ← next? with
  | none => throw .endInValue
  | some c =>
    if c = some '"' then
      advance
      textTail
    else unexpected "a string" c

/-- An integer of some range. -/
def integer (wanted : String) (convert : Int → Option α) : Reader α := do
  match ← next? with
  | none => throw .endInValue
  | some c =>
    if c = some '-' || isDigit c then
      match ← number with
      | .int n =>
        match convert n with
        | some x => return x
        | none => throw (.invalidInteger n wanted)
      | .float x => throw (.invalidType (.float x) wanted)
    else unexpected wanted c

/-- An integer that fits 32 bits. -/
def toInt32? (n : Int) : Option Int32 :=
  if -2147483648 ≤ n ∧ n < 2147483648 then some (Int32.ofInt n) else none

/-- An integer that fits 32 bits without a sign. -/
def toUInt32? (n : Int) : Option UInt32 :=
  if 0 ≤ n ∧ n < 4294967296 then some (UInt32.ofNat n.toNat) else none

/-- An integer of 32 bits. -/
def int32 : Reader Int32 := integer "i32" toInt32?

/-- An integer of 32 bits without a sign. -/
def uint32 : Reader UInt32 := integer "u32" toUInt32?

/-- A value, or `null` for no value. -/
def orNull (read : Reader α) : Reader (Option α) := do
  if (← next?) = some (some 'n') then
    advance
    word ['u', 'l', 'l']
    return none
  else return some (← read)

/-! ### Arrays -/

/-- The next item of an array, or nothing at its end.  The closing bracket stays. -/
def nextItem (first : Bool) (item : Reader α) : Reader (Option α) := do
  match ← next? with
  | none => throw .endInArray
  | some c =>
    if c = some ']' then return none
    else if first then return some (← item)
    else if c ≠ some ',' then throw .expectedArrayEnd
    else
      advance
      match ← next? with
      | none => throw .endInValue
      | some d => if d = some ']' then throw .trailingComma else return some (← item)

/-- The end of an array of which no more items are wanted. -/
def endArray : Reader Unit := do
  match ← next? with
  | none => throw .endInArray
  | some c =>
    if c = some ']' then advance
    else if c = some ',' then
      advance
      if (← next?) = some (some ']') then throw .trailingComma else throw .trailingCharacters
    else throw .trailingCharacters

/-- The items of an array up to its closing bracket; there are at most as many as the fuel. -/
def items (item : Reader α) : (fuel : Nat) → (first : Bool) → Reader (List α)
  | 0, _ => pure []
  | fuel + 1, first => do
    match ← nextItem first item with
    | none => return []
    | some x => return x :: (← items item fuel false)

/-- All items of an array whose opening bracket is gone. -/
def arrayTail (item : Reader α) : Reader (List α) := do
  let xs ← items item ((← get).length + 1) true
  endArray
  return xs

/-- An array. -/
def list (item : Reader α) : Reader (List α) := do
  match ← next? with
  | none => throw .endInValue
  | some c =>
    if c = some '[' then
      advance
      arrayTail item
    else unexpected "a sequence" c

/-! ### Objects -/

/-- The next key of an object, or nothing at its end.  The closing brace stays. -/
def nextKey (first : Bool) : Reader (Option String) := do
  match ← next? with
  | none => throw .endInObject
  | some c =>
    if c = some '\x7d' then return none
    else if first then
      if c = some '"' then
        advance
        return some (← textTail)
      else throw .keyNotText
    else if c ≠ some ',' then throw .expectedObjectEnd
    else
      advance
      match ← next? with
      | none => throw .endInValue
      | some d =>
        if d = some '"' then
          advance
          return some (← textTail)
        else if d = some '\x7d' then throw .trailingComma
        else throw .keyNotText

/-- The colon behind a key. -/
def colon : Reader Unit := do
  match ← next? with
  | none => throw .endInObject
  | some c => if c = some ':' then advance else throw .expectedColon

/-! ### Values that are passed over -/

/-- Where the passing over of a value stands: in front of a value or of a key, behind an opening
bracket or brace, or behind a value. -/
inductive SkipState where
  | value
  | opened (isObject : Bool)
  | key
  | done

/-- One step of the passing over.  `open_` holds the brackets around the place, innermost first,
`true` for an object; an opening bracket is added to them when something stands behind it. -/
def skipStep : SkipState → (open_ : List Bool) → Reader (SkipState × List Bool)
  | .value, open_ => do
    match ← next? with
    | none => throw .endInValue
    | some c =>
      if c = some 'n' then
        advance
        word ['u', 'l', 'l']
        return (.done, open_)
      else if c = some 't' then
        advance
        word ['r', 'u', 'e']
        return (.done, open_)
      else if c = some 'f' then
        advance
        word ['a', 'l', 's', 'e']
        return (.done, open_)
      else if c = some '-' || isDigit c then
        skipNumber
        return (.done, open_)
      else if c = some '"' then
        advance
        skipTextTail
        return (.done, open_)
      else if c = some '[' then
        advance
        return (.opened false, open_)
      else if c = some '\x7b' then
        advance
        return (.opened true, open_)
      else throw .expectedValue
  | .opened isObject, open_ => do
    match ← next? with
    | none => throw (if isObject then .endInObject else .endInArray)
    | some c =>
      if c = some (if isObject then '\x7d' else ']') then
        advance
        return (.done, open_)
      else return (if isObject then .key else .value, isObject :: open_)
  | .key, open_ => do
    match ← next? with
    | none => throw .endInObject
    | some c =>
      if c = some '"' then
        advance
        skipTextTail
        colon
        return (.value, open_)
      else throw .keyNotText
  | .done, [] => return (.done, [])
  | .done, isObject :: outer => do
    match ← next? with
    | none => throw (if isObject then .endInObject else .endInArray)
    | some c =>
      if c = some ',' then
        advance
        return (if isObject then .key else .value, isObject :: outer)
      else if c = some (if isObject then '\x7d' else ']') then
        advance
        return (.done, outer)
      else throw (if isObject then .expectedObjectEnd else .expectedArrayEnd)

/-- Passes over what is left of a value, up to the place where no bracket is open. -/
def skipSteps : (fuel : Nat) → SkipState → (open_ : List Bool) → Reader Unit
  | 0, _, _ => pure ()
  | _ + 1, .done, [] => pure ()
  | fuel + 1, state, open_ => do
    let (state, open_) ← skipStep state open_
    skipSteps fuel state open_

/-- Passes over a value, to any depth. -/
def skipValue : Reader Unit := do
  skipSteps (4 * (← get).length + 4) .value []

/-! ### Any value -/

/-- The value that a number is. -/
def Number.json : Number → Json
  | int n => .int n
  | float x => .float x

/-- The members of an object up to its closing brace. -/
def members (member : Reader α) : (fuel : Nat) → (first : Bool) → Reader (List (String × α))
  | 0, _ => pure []
  | fuel + 1, first => do
    match ← nextKey first with
    | none => return []
    | some key =>
      colon
      let x ← member
      return (key, x) :: (← members member fuel false)

/-- Any value with arrays and objects at most `depth` deep.  The members of its objects are put in
ascending order of their keys, and of members with one key the last stays. -/
def value (depth : Nat) : Reader Json := do
  match ← next? with
  | none => throw .endInValue
  | some c =>
    if c = some 'n' then
      advance
      word ['u', 'l', 'l']
      return .null
    else if c = some 't' then
      advance
      word ['r', 'u', 'e']
      return .bool true
    else if c = some 'f' then
      advance
      word ['a', 'l', 's', 'e']
      return .bool false
    else if c = some '-' || isDigit c then return (← number).json
    else if c = some '"' then
      advance
      return .text (← textTail)
    else if c = some '[' then
      match depth with
      | 0 => throw .tooDeep
      | depth + 1 =>
        advance
        return .array (← arrayTail (value depth))
    else if c = some '\x7b' then
      match depth with
      | 0 => throw .tooDeep
      | depth + 1 =>
        advance
        let ms ← members (value depth) ((← get).length + 1) true
        advance
        return .object (sortMembers ms)
    else throw .expectedValue

/-- A whole text: one value, and nothing behind it but blanks. -/
def document (read : Reader α) (src : Source) : Except ReadError α := do
  let (x, rest) ← read src
  if (rest.dropWhile isSpace).isEmpty then return x else throw .trailingCharacters

/-- The arrays and objects around a value that is kept may be this deep in all. -/
def maxDepth : Nat := 127

/-- The value that a text writes. -/
def ofText (s : String) : Except ReadError Json :=
  document (value maxDepth) (Source.ofString s)

end Matchday.Json
