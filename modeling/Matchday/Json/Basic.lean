import Matchday.Decimal.Text
import Matchday.Table

/-!
# JSON values and their texts

## Main definitions

* `Json`: a JSON value; members keep their order.
* `Json.compact`: the text of a value without blanks.
* `Json.pretty`: the text of a value with one item a line and two blanks for each level.
-/

namespace Matchday

/-- A JSON value.  An object keeps its members in their order, also those of one key. -/
inductive Json where
  | null
  | bool (b : Bool)
  | int (n : Int)
  | float (x : Float)
  | text (s : String)
  | array (items : List Json)
  | object (members : List (String × Json))
deriving Repr, Inhabited

namespace Json

/-- Sixteen bits as four hexadecimal digits. -/
def hexQuad (n : Nat) : List Char :=
  [n / 4096 % 16, n / 256 % 16, n / 16 % 16, n % 16].map Nat.digitChar

/-- A character inside a quoted text.  Only the quote, the backslash and control characters are
escaped. -/
def escapeChar (c : Char) : List Char :=
  if c = '"' then ['\\', '"']
  else if c = '\\' then ['\\', '\\']
  else if c = '\x08' then ['\\', 'b']
  else if c = '\x0c' then ['\\', 'f']
  else if c = '\n' then ['\\', 'n']
  else if c = '\r' then ['\\', 'r']
  else if c = '\t' then ['\\', 't']
  else if c.toNat < 32 then '\\' :: 'u' :: hexQuad c.toNat
  else [c]

/-- A text in quotes. -/
def quoted (s : String) : List Char :=
  '"' :: s.toList.flatMap escapeChar ++ ['"']

/-- A floating-point number; JSON has no word for infinity or for the missing number. -/
def floatText (x : Float) : List Char :=
  match Decimal.magnitude x with
  | .finite _ _ => (Decimal.withExponent x).toList
  | _ => "null".toList

/-- The word for a truth value. -/
def boolText (b : Bool) : List Char :=
  if b then "true".toList else "false".toList

mutual

/-- The text of a value without blanks. -/
def compactChars : Json → List Char
  | null => "null".toList
  | bool b => boolText b
  | int n => n.repr.toList
  | float x => floatText x
  | text s => quoted s
  | array items => '[' :: compactItems items ++ [']']
  | object members => '\x7b' :: compactMembers members ++ ['\x7d']

/-- The texts of items, with commas between them. -/
def compactItems : List Json → List Char
  | [] => []
  | [item] => compactChars item
  | item :: items => compactChars item ++ ',' :: compactItems items

/-- The texts of members, with commas between them. -/
def compactMembers : List (String × Json) → List Char
  | [] => []
  | [(key, value)] => quoted key ++ ':' :: compactChars value
  | (key, value) :: members => quoted key ++ ':' :: compactChars value ++ ',' :: compactMembers members

end

/-- A line break and the blanks before an item of the given level. -/
def lineBreak (level : Nat) : List Char :=
  '\n' :: List.replicate (2 * level) ' '

mutual

/-- The text of a value whose items stand on lines of their own, `level` steps to the right. -/
def prettyChars (level : Nat) : Json → List Char
  | null => "null".toList
  | bool b => boolText b
  | int n => n.repr.toList
  | float x => floatText x
  | text s => quoted s
  | array [] => ['[', ']']
  | array items => '[' :: prettyItems (level + 1) items ++ lineBreak level ++ [']']
  | object [] => ['\x7b', '\x7d']
  | object members => '\x7b' :: prettyMembers (level + 1) members ++ lineBreak level ++ ['\x7d']

/-- The texts of items on lines of their own. -/
def prettyItems (level : Nat) : List Json → List Char
  | [] => []
  | [item] => lineBreak level ++ prettyChars level item
  | item :: items => lineBreak level ++ prettyChars level item ++ ',' :: prettyItems level items

/-- The texts of members on lines of their own. -/
def prettyMembers (level : Nat) : List (String × Json) → List Char
  | [] => []
  | [(key, value)] => lineBreak level ++ quoted key ++ ':' :: ' ' :: prettyChars level value
  | (key, value) :: members =>
    lineBreak level ++ quoted key ++ ':' :: ' ' :: prettyChars level value ++
      ',' :: prettyMembers level members

end

/-- The text of a value without blanks. -/
def compact (j : Json) : String :=
  String.ofList j.compactChars

/-- The text of a value with one item a line. -/
def pretty (j : Json) : String :=
  String.ofList (prettyChars 0 j)

/-- Members in ascending order of their keys; of members with one key the last stays. -/
def sortMembers (members : List (String × Json)) : List (String × Json) :=
  (Table.ofList members).toList

end Json

end Matchday
