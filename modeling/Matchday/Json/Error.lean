import Matchday.Decimal.Text
import Matchday.Text.Quoted

/-!
# Errors in JSON texts

## Main definitions

* `Json.Got`: what stands in a text where something else was wanted.
* `Json.ReadError`: why a text could not be read.
* `Json.ReadError.message`: the wording.
-/

namespace Matchday.Json

/-- What stands in a text where something else was wanted. -/
inductive Got where
  | null
  | bool (b : Bool)
  | int (n : Int)
  | float (x : Float)
  | text (s : String)
  | array
  | object
deriving Repr, Inhabited

/-- How messages call what they got. -/
def Got.message : Got → String
  | null => "null"
  | bool b => s!"boolean `{b}`"
  | int n => s!"integer `{n}`"
  | float x => s!"floating point `{Decimal.withExponent x}`"
  | text s => s!"string {Text.quote s}"
  | array => "sequence"
  | object => "map"

/-- Why a text could not be read. -/
inductive ReadError where
  | endInValue
  | endInArray
  | endInObject
  | endInText
  | expectedValue
  | expectedWord
  | expectedColon
  | expectedArrayEnd
  | expectedObjectEnd
  | keyNotText
  | trailingComma
  | trailingCharacters
  | invalidNumber
  | numberOutOfRange
  | invalidEscape
  | invalidCodePoint
  | controlCharacter
  | loneSurrogate
  | missingSurrogate
  | tooDeep
  | missingField (name : String)
  | duplicateField (name : String)
  | invalidType (got : Got) (wanted : String)
  | invalidInteger (n : Int) (wanted : String)
  | invalidLength (n : Nat) (wanted : String)
deriving Repr, Inhabited

/-- The wording of an error, without the place of it. -/
def ReadError.message : ReadError → String
  | endInValue => "EOF while parsing a value"
  | endInArray => "EOF while parsing a list"
  | endInObject => "EOF while parsing an object"
  | endInText => "EOF while parsing a string"
  | expectedValue => "expected value"
  | expectedWord => "expected ident"
  | expectedColon => "expected `:`"
  | expectedArrayEnd => "expected `,` or `]`"
  | expectedObjectEnd => "expected `,` or `\x7d`"
  | keyNotText => "key must be a string"
  | trailingComma => "trailing comma"
  | trailingCharacters => "trailing characters"
  | invalidNumber => "invalid number"
  | numberOutOfRange => "number out of range"
  | invalidEscape => "invalid escape"
  | invalidCodePoint => "invalid unicode code point"
  | controlCharacter => "control character (\\u0000-\\u001F) found while parsing a string"
  | loneSurrogate => "lone leading surrogate in hex escape"
  | missingSurrogate => "unexpected end of hex escape"
  | tooDeep => "recursion limit exceeded"
  | missingField name => s!"missing field `{name}`"
  | duplicateField name => s!"duplicate field `{name}`"
  | invalidType got wanted => s!"invalid type: {got.message}, expected {wanted}"
  | invalidInteger n wanted => s!"invalid value: integer `{n}`, expected {wanted}"
  | invalidLength n wanted => s!"invalid length {n}, expected {wanted}"

end Matchday.Json
