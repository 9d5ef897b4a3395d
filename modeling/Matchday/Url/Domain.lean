import Matchday.Text.Letter
import Matchday.Url.Basic
import Matchday.Url.DomainTable
import Matchday.Url.Punycode

/-!
# Host names

A host name is brought to lower case and to ASCII label by label: a label with other characters
becomes `xn--` and its form in Punycode.

## Main definitions

* `Url.domainToAscii?`: the form of a host name in ASCII.
-/

namespace Matchday.Url

/-- Characters that no host name may hold. -/
def isForbidden (c : Char) : Bool :=
  128 ≤ c.toNat && forbiddenRanges.any (·.contains c)

/-- Characters of a host name that are left out. -/
def isIgnored (c : Char) : Bool :=
  128 ≤ c.toNat && ignoredRanges.any (·.contains c)

/-- Marks that belong to the character before them. -/
def isMark (c : Char) : Bool :=
  128 ≤ c.toNat && markRanges.any (·.contains c)

/-- ASCII characters that have another meaning in a URL. -/
def isDelimiter (c : Char) : Bool :=
  c.toNat ≤ 32 || c.toNat == 127 ||
    ['%', '#', '/', ':', '<', '>', '?', '@', '[', '\\', ']', '^', '|'].contains c

/-- The characters that stand for one character of a host name. -/
def mapChar (c : Char) : List Char :=
  if isIgnored c then []
  else if c = '\u3002' || c = '\uff0e' || c = '\uff61' then ['.']
  else if 0xFF01 ≤ c.toNat && c.toNat ≤ 0xFF5E then [(Char.ofNat (c.toNat - 0xFEE0)).toLower]
  else Text.lowerChar c

/-- Whether a character is one of ASCII. -/
def isAscii (c : Char) : Bool :=
  c.toNat < 128

/-- What marks a label in Punycode. -/
def codedMark : List Char := ['x', 'n', '-', '-']

/-- Whether a label is well formed once it is decoded. -/
def isLabel (label : List Char) : Bool :=
  label.all (fun c => !isForbidden c && !isDelimiter c) &&
    !(label.head?.map isMark).getD false

/-- Whether a label could be the one that a coded label stands for. -/
def isDecodedLabel (label : List Char) : Bool :=
  isLabel label && !label.all isAscii && label.all fun c => mapChar c == [c]

/-- The form of a label in ASCII. -/
def labelToAscii? (label : List Char) : Option (List Char) :=
  if codedMark.isPrefixOf label then
    if label.all isAscii &&
        ((Punycode.decode? (label.drop codedMark.length)).map isDecodedLabel).getD false then
      some label
    else none
  else if !isLabel label then none
  else if label.all isAscii then some label
  else some (codedMark ++ Punycode.encode label)

/-- The form of a host name in ASCII. -/
def domainToAscii? (bytes : List UInt8) : Option String := do
  let name ← String.fromUTF8? ⟨bytes.toArray⟩
  if name.toList.any isForbidden then none
  else
    let labels ← (splitOn '.' (name.toList.flatMap mapChar)).mapM labelToAscii?
    some (String.ofList (['.'].intercalate labels))

end Matchday.Url
