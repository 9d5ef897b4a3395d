import Matchday.Text.Letter

/-!
# Slugs

The form of a display name inside a path: a hyphen goes between an ASCII lowercase letter and an
ASCII uppercase letter right behind it, then everything becomes lowercase.  `PremierLeague` gives
`premier-league`.

## Main definitions

* `hyphenate`: the first step.
* `slug`: both steps.
-/

namespace Matchday

/-- Puts a hyphen wherever an uppercase letter directly follows a lowercase one; `afterLower` tells
whether a lowercase letter stands directly before the text. -/
def hyphenate (afterLower : Bool) : List Char → List Char
  | [] => []
  | c :: cs =>
    if afterLower && c.isUpper then '-' :: c :: hyphenate c.isLower cs
    else c :: hyphenate c.isLower cs

/-- A name as it stands in paths: in lower case, with a hyphen wherever a capital directly follows a
lowercase letter. -/
def slug (name : String) : String :=
  String.ofList (Text.lowerChars false (hyphenate false name.toList))

end Matchday
