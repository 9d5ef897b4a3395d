/-!
# Tokens of configuration files

A configuration file in the TOML format is taken apart into marks, blanks, line breaks, words and
quoted texts.  Comments vanish.  Every text in quotes is read here, once and for all.

## Main definitions

* `Toml.Token`: a token.
* `Toml.tokens?`: the tokens of a text.
-/

namespace Matchday.Toml

/-- The pieces that a text is made of. -/
inductive Token where
  | dot
  | equals
  | comma
  | openBracket
  | closeBracket
  | openBrace
  | closeBrace
  | blank (cs : List Char)
  | newline
  | word (cs : List Char)
  /-- A text in quotes; only one that is written on a single line can be a key. -/
  | text (s : String) (isMultiline : Bool)
deriving DecidableEq, Repr

/-- The mark that a character is. -/
def mark? : Char → Option Token
  | '.' => some .dot
  | '=' => some .equals
  | ',' => some .comma
  | '[' => some .openBracket
  | ']' => some .closeBracket
  | '{' => some .openBrace
  | '}' => some .closeBrace
  | _ => none

/-- Blanks within a line. -/
def isBlank (c : Char) : Bool :=
  c == ' ' || c == '\t'

/-- Whether a character ends a word. -/
def endsWord (c : Char) : Bool :=
  (mark? c).isSome || isBlank c || c == '\n' || c == '\r' || c == '#' || c == '"' || c == '\''

/-- Control characters that may stand in no comment and in no text. -/
def isForbidden (c : Char) : Bool :=
  (c.toNat < 32 && c != '\t') || c.toNat == 127

/-! ### Escapes -/

/-- The value of a hexadecimal digit. -/
def hexValue? (c : Char) : Option Nat :=
  if c.isDigit then some (c.toNat - '0'.toNat)
  else if 'a' ≤ c && c ≤ 'f' then some (c.toNat - 'a'.toNat + 10)
  else if 'A' ≤ c && c ≤ 'F' then some (c.toNat - 'A'.toNat + 10)
  else none

/-- The character whose code point `n` hexadecimal digits give. -/
def codeChar? (n : Nat) (cs : List Char) : Option Char := do
  let digits := cs.take n
  if digits.length ≠ n then none
  else
    let code ← digits.foldlM (fun value c => (hexValue? c).map (16 * value + ·)) 0
    if code.isValidChar then some (Char.ofNat code) else none

/-- The character of the escape behind a backslash, and the length of the escape. -/
def escape? : List Char → Option (Char × Nat)
  | 'b' :: _ => some ('\x08', 1)
  | 't' :: _ => some ('\t', 1)
  | 'n' :: _ => some ('\n', 1)
  | 'f' :: _ => some ('\x0c', 1)
  | 'r' :: _ => some ('\r', 1)
  | 'e' :: _ => some ('\x1b', 1)
  | '"' :: _ => some ('"', 1)
  | '\\' :: _ => some ('\\', 1)
  | 'x' :: cs => (codeChar? 2 cs).map fun c => (c, 3)
  | 'u' :: cs => (codeChar? 4 cs).map fun c => (c, 5)
  | 'U' :: cs => (codeChar? 8 cs).map fun c => (c, 9)
  | _ => none

/-- The number of characters at the start of a text that a backslash at the end of a line joins
away: blanks, a line break, and all blanks and line breaks behind it. -/
def joinLength? (cs : List Char) : Option Nat :=
  let gap := cs.takeWhile fun c => isBlank c || c == '\n' || c == '\r'
  let line := gap.dropWhile isBlank
  match line with
  | '\n' :: _ => some gap.length
  | '\r' :: '\n' :: _ => some gap.length
  | _ => none

/-! ### Quoted texts

Each reader gives the content and what follows the closing quotes; the first `skip` characters
belong to something already read. -/

/-- A text in double quotes. -/
def basicText : (skip : Nat) → List Char → Option (List Char × List Char)
  | _, [] => none
  | skip + 1, _ :: cs => basicText skip cs
  | 0, c :: cs =>
    if c = '"' then some ([], cs)
    else if c = '\\' then do
      let (d, used) ← escape? cs
      let (text, rest) ← basicText used cs
      return (d :: text, rest)
    else if isForbidden c then none
    else (basicText 0 cs).map fun (text, rest) => (c :: text, rest)

/-- A text in single quotes, which knows no escapes. -/
def literalText : List Char → Option (List Char × List Char)
  | [] => none
  | c :: cs =>
    if c = '\'' then some ([], cs)
    else if isForbidden c then none
    else (literalText cs).map fun (text, rest) => (c :: text, rest)

/-- The number of quotes at the start of a text, up to five. -/
def quoteRun (quote : Char) (cs : List Char) : Nat :=
  ((cs.take 5).takeWhile (· == quote)).length

/-- Whether a character may stand in a text of several lines. -/
def fitsLines (c : Char) (cs : List Char) : Bool :=
  c == '\n' || (c == '\r' && cs.head? == some '\n') || !isForbidden c

/-- A text in three double quotes.  Up to two quotes before the closing ones belong to it. -/
def basicLines : (skip : Nat) → List Char → Option (List Char × List Char)
  | _, [] => none
  | skip + 1, _ :: cs => basicLines skip cs
  | 0, c :: cs =>
    let quotes := quoteRun '"' (c :: cs)
    if 3 ≤ quotes then some (List.replicate (quotes - 3) '"', (c :: cs).drop quotes)
    else if c = '\\' then
      match joinLength? cs with
      | some used => basicLines used cs
      | none => do
        let (d, used) ← escape? cs
        let (text, rest) ← basicLines used cs
        return (d :: text, rest)
    else if fitsLines c cs then (basicLines 0 cs).map fun (text, rest) => (c :: text, rest)
    else none

/-- A text in three single quotes. -/
def literalLines : List Char → Option (List Char × List Char)
  | [] => none
  | c :: cs =>
    let quotes := quoteRun '\'' (c :: cs)
    if 3 ≤ quotes then some (List.replicate (quotes - 3) '\'', (c :: cs).drop quotes)
    else if fitsLines c cs then (literalLines cs).map fun (text, rest) => (c :: text, rest)
    else none

/-- Leaves out the line break at the start of a text of several lines. -/
def dropFirstBreak : List Char → List Char
  | '\n' :: cs => cs
  | '\r' :: '\n' :: cs => cs
  | cs => cs

/-- The text in quotes at the start of a text, and what follows it. -/
def quoted? : List Char → Option (Token × List Char)
  | '"' :: '"' :: '"' :: cs =>
    (basicLines 0 (dropFirstBreak cs)).map fun (text, rest) =>
      (.text (String.ofList text) true, rest)
  | '\'' :: '\'' :: '\'' :: cs =>
    (literalLines (dropFirstBreak cs)).map fun (text, rest) =>
      (.text (String.ofList text) true, rest)
  | '"' :: cs =>
    (basicText 0 cs).map fun (text, rest) => (.text (String.ofList text) false, rest)
  | '\'' :: cs =>
    (literalText cs).map fun (text, rest) => (.text (String.ofList text) false, rest)
  | _ => none

/-! ### All tokens -/

/-- What follows a comment, if nothing in it is forbidden. -/
def afterComment? (cs : List Char) : Option (List Char) :=
  let comment := cs.takeWhile fun c => c != '\n'
  let rest := cs.drop comment.length
  let comment := if rest.isEmpty || comment.getLast? != some '\r' then comment else comment.dropLast
  if comment.any isForbidden then none else some rest

/-- The token at the start of a text, if it is not in quotes and not a comment. -/
def plainToken? : List Char → Option (Token × List Char)
  | [] => none
  | '\n' :: cs => some (.newline, cs)
  | '\r' :: '\n' :: cs => some (.newline, cs)
  | c :: cs =>
    match mark? c with
    | some t => some (t, cs)
    | none =>
      if isBlank c then some (.blank ((c :: cs).takeWhile isBlank), cs.dropWhile isBlank)
      else if endsWord c then none
      else
        some (.word ((c :: cs).takeWhile fun c => !endsWord c), cs.dropWhile fun c => !endsWord c)

/-- The tokens of a text; there are at most as many as the fuel. -/
def tokensWithin : (fuel : Nat) → List Char → Option (List Token)
  | 0, cs => if cs.isEmpty then some [] else none
  | _ + 1, [] => some []
  | fuel + 1, c :: cs =>
    if c = '#' then do tokensWithin fuel (← afterComment? cs)
    else do
      let (t, rest) ← if c = '"' || c = '\'' then quoted? (c :: cs) else plainToken? (c :: cs)
      return t :: (← tokensWithin fuel rest)

/-- The tokens of a text.  A mark of the byte order at its start does not count. -/
def tokens? (s : String) : Option (List Token) :=
  let cs := match s.toList with
    | '\ufeff' :: cs => cs
    | cs => cs
  tokensWithin cs.length cs

end Matchday.Toml
