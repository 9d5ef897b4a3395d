import Matchday.Text.PrintableTable

/-!
# Quotations

A text quoted in a message: double quotes around it, the usual escapes inside, and `\u{...}` for
every character that would not show.

## Main definitions

* `Text.quote`: the quotation of a string.
-/

namespace Matchday.Text

/-- Whether a character is shown by its code. -/
def isUnprintable (c : Char) : Bool :=
  unprintableRanges.any (·.contains c)

/-- The escape of a character that would not show, with its code in hexadecimal. -/
def escapeByCode (c : Char) : List Char :=
  "\\u\x7b".toList ++ Nat.toDigits 16 c.toNat ++ ['\x7d']

/-- A character as it is shown between quotes. -/
def escapeChar (c : Char) : List Char :=
  if c = '"' then ['\\', '"']
  else if c = '\\' then ['\\', '\\']
  else if c = '\n' then ['\\', 'n']
  else if c = '\r' then ['\\', 'r']
  else if c = '\t' then ['\\', 't']
  else if c = '\x00' then ['\\', '0']
  else if isUnprintable c then escapeByCode c
  else [c]

/-- A text as messages quote it. -/
def quote (s : String) : String :=
  String.ofList ('"' :: s.toList.flatMap escapeChar ++ ['"'])

end Matchday.Text
