import Matchday.Text.CaseTable

/-!
# Letters and their case

## Main definitions

* `Text.isUppercase`: the class of uppercase letters.
* `Text.lowerChar`: the lowercase form of one character, out of context.
* `Text.lowerChars`: the lowercase form of a text, where a capital sigma depends on its place.
* `Text.lowercase`: the same on strings.

## Main results

* `Text.lowerChars_cons`: how one character and its surroundings decide the next part.
-/

namespace Matchday.Text

/-- The class `Uppercase`. -/
def isUppercase (c : Char) : Bool :=
  if c.toNat < 128 then c.isUpper else uppercaseRuns.any (·.contains c)

/-- The class `Cased`. -/
def isCased (c : Char) : Bool :=
  if c.toNat < 128 then c.isAlpha else casedRanges.any (·.contains c)

/-- The class `Case_Ignorable`: characters that a word may hold without being a letter of it. -/
def isCaseIgnorable (c : Char) : Bool :=
  caseIgnorableRanges.any (·.contains c)

/-- The lowercase form of a character on its own. Only the dotted capital I becomes two
characters. -/
def lowerChar (c : Char) : List Char :=
  if c.toNat < 128 then [c.toLower]
  else if c = 'İ' then ['i', '\u0307']
  else match lowercaseShifts.find? (·.1.contains c) with
    | some (_, shift) => [Char.ofNat (c.toNat + shift).toNat]
    | none => [c]

/-- Whether a letter comes next, past characters that a word may hold. -/
def letterFollows : List Char → Bool
  | [] => false
  | c :: cs => if isCaseIgnorable c then letterFollows cs else isCased c

/-- Whether a letter comes directly before the place after `c`, given whether one came directly
before `c`. -/
def letterBefore (before : Bool) (c : Char) : Bool :=
  if isCaseIgnorable c then before else isCased c

/-- The lowercase form of a text, `before` telling whether a letter stands directly before it. A
capital sigma that ends a word becomes the final form `ς`. -/
def lowerChars (before : Bool) : List Char → List Char
  | [] => []
  | c :: cs =>
    (if c = 'Σ' then [if before && !letterFollows cs then 'ς' else 'σ'] else lowerChar c) ++
      lowerChars (letterBefore before c) cs

theorem lowerChars_nil (before : Bool) : lowerChars before [] = [] := rfl

theorem lowerChars_cons (before : Bool) (c : Char) (cs : List Char) :
    lowerChars before (c :: cs) =
      (if c = 'Σ' then [if before && !letterFollows cs then 'ς' else 'σ'] else lowerChar c) ++
        lowerChars (letterBefore before c) cs := rfl

/-- The lowercase form of a string. -/
def lowercase (s : String) : String :=
  String.ofList (lowerChars false s.toList)

/-- The lowercase form of a string taken one character at a time, where every sigma stays `σ`. -/
def foldCase (s : String) : List Char :=
  s.toList.flatMap lowerChar

end Matchday.Text
