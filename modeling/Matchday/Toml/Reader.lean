import Matchday.Toml.Token
import Matchday.Toml.Tree

/-!
# Reading configuration files

A file is a sequence of lines: headers, and keys with values.  A value may go over several lines
inside brackets and braces.

## Main definitions

* `Toml.Reader`: takes something from the start of the tokens.
* `Toml.value`: reads a value.
* `Toml.read?`: the entries of a whole file.
-/

namespace Matchday.Toml

/-- Takes something from the start of the tokens and leaves the rest. -/
abbrev Reader := StateT (List Token) Option

variable {α : Type}

/-- The next token, which stays. -/
def peek? : Reader (Option Token) := fun ts => some (ts.head?, ts)

/-- Leaves out one token. -/
def skip : Reader Unit := fun ts => some ((), ts.tail)

/-- Blanks between other tokens. -/
def Token.isBlank : Token → Bool
  | blank _ => true
  | _ => false

/-- Leaves out the blanks at the start. -/
def skipBlanks : Reader Unit := fun ts => some ((), ts.dropWhile Token.isBlank)

/-- Leaves out blanks and line breaks. -/
def skipLines : Reader Unit := fun ts => some ((), ts.dropWhile fun t => t.isBlank || t == .newline)

/-- Leaves out a token that must be there. -/
def expect (t : Token) : Reader Unit := fun
  | [] => none
  | u :: ts => if u = t then some ((), ts) else none

/-! ### Keys -/

/-- Characters of a key that stands without quotes. -/
def isBareKey (c : Char) : Bool :=
  c.isAlphanum || c == '_' || c == '-'

/-- A key without dots: a bare word or a text on one line. -/
def simpleKey : Reader String := fun
  | .word cs :: ts => if cs.all isBareKey then some (String.ofList cs, ts) else none
  | .text s false :: ts => some (s, ts)
  | _ => none

/-- The parts of a key behind its first part. -/
def moreKeys : (fuel : Nat) → Reader (List String)
  | 0 => pure []
  | fuel + 1 => do
    skipBlanks
    if (← peek?) = some .dot then
      skip
      skipBlanks
      let key ← simpleKey
      return key :: (← moreKeys fuel)
    else return []

/-- A key: all parts but the last, and the last. -/
def dottedKey : Reader (List String × String) := do
  skipBlanks
  let first ← simpleKey
  let more ← moreKeys (← get).length
  match more.getLast? with
  | none => return ([], first)
  | some last => return (first :: more.dropLast, last)

/-! ### Values -/

/-- The characters of words and dots that follow each other. -/
def joinWords : List Token → List Char × List Token
  | .word cs :: ts =>
    let (more, rest) := joinWords ts
    (cs ++ more, rest)
  | .dot :: ts =>
    let (more, rest) := joinWords ts
    ('.' :: more, rest)
  | ts => ([], ts)

/-- Words and dots, or a date and a time with one space between them. -/
def scalar : Reader Value := fun ts =>
  let (cs, rest) := joinWords ts
  match rest with
  | .blank [' '] :: rest' =>
    let (time, rest') := joinWords rest'
    if !time.isEmpty && afterDate? cs == some [] then
      (scalar? (cs ++ ' ' :: time)).map fun v => (v, rest')
    else (scalar? cs).map fun v => (v, rest)
  | _ => (scalar? cs).map fun v => (v, rest)

/-- The items of an array up to its bracket, which is left out. -/
def arrayItems (item : Reader Value) : (fuel : Nat) → Reader (List Value)
  | 0 => failure
  | fuel + 1 => do
    skipLines
    if (← peek?) = some .closeBracket then
      skip
      return []
    else
      let v ← item
      skipLines
      if (← peek?) = some .comma then
        skip
        return v :: (← arrayItems item fuel)
      else
        expect .closeBracket
        return [v]

/-- The entries of a table in braces, up to its brace, which is left out. -/
def braceEntries (item : Reader Value) : (fuel : Nat) → Entries → Reader Entries
  | 0, _ => failure
  | fuel + 1, entries => do
    skipLines
    if (← peek?) = some .closeBrace then
      skip
      return entries
    else
      let (path, key) ← dottedKey
      skipBlanks
      expect .equals
      let v ← item
      let entries ← StateT.lift (assign key v path entries)
      skipLines
      if (← peek?) = some .comma then
        skip
        braceEntries item fuel entries
      else
        expect .closeBrace
        return entries

/-- A value with arrays and tables at most `depth` deep. -/
def value : (depth : Nat) → Reader Value
  | 0 => do
    skipBlanks
    match ← peek? with
    | some (.text s _) =>
      skip
      return .text s
    | _ => scalar
  | depth + 1 => do
    skipBlanks
    match ← peek? with
    | some (.text s _) =>
      skip
      return .text s
    | some .openBracket =>
      skip
      return .array (← arrayItems (value depth) (← get).length)
    | some .openBrace =>
      skip
      return .table (finishEntries (← braceEntries (value depth) (← get).length []))
    | _ => scalar

/-- Arrays and tables may be this deep inside each other. -/
def maxDepth : Nat := 80

/-! ### Lines -/

/-- A line that starts a table: its path, and whether the table is one of an array. -/
def headerLine : Reader (Bool × List String × String) := do
  expect .openBracket
  let isItem := (← peek?) == some .openBracket
  if isItem then skip
  let (path, key) ← dottedKey
  skipBlanks
  expect .closeBracket
  if isItem then expect .closeBracket
  return (isItem, path, key)

/-- A key and its value. -/
def keyLine : Reader (List String × String × Value) := do
  let (path, key) ← dottedKey
  skipBlanks
  expect .equals
  return (path, key, ← value maxDepth)

/-- The end of a line. -/
def lineEnd : Reader Unit := do
  skipBlanks
  match ← peek? with
  | none => return ()
  | some _ => expect .newline

/-- The lines of a file.  `header` is the path of the last header. -/
def lines : (fuel : Nat) → (header : List String) → Entries → Reader Entries
  | 0, _, root => return root
  | fuel + 1, header, root => do
    skipLines
    match ← peek? with
    | none => return root
    | some .openBracket =>
      let (isItem, path, key) ← headerLine
      lineEnd
      let root ← StateT.lift ((if isItem then openItem else openTable) path key root)
      lines fuel (path ++ [key]) root
    | some _ =>
      let (path, key, v) ← keyLine
      lineEnd
      let root ← StateT.lift (assignBelow header path key v root)
      lines fuel header root

/-- The entries of a whole file. -/
def read? (s : String) : Option (List (String × Value)) := do
  let ts ← tokens? s
  let (root, _) ← lines (ts.length + 1) [] [] ts
  return finishEntries root

end Matchday.Toml
