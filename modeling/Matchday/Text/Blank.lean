import Matchday.Text.CodeRange

/-!
# Blank space

## Main definitions

* `Text.isBlank`: the class `White_Space`.
* `Text.trim`: a string without the blanks at its two ends.
* `Text.trimEndOf`, `Text.trimOf`: the same for one given character.
-/

namespace Matchday.Text

/-- The class `White_Space`. -/
def blankRanges : List CodeRange :=
  [⟨0x9, 0xD⟩, ⟨0x20, 0x20⟩, ⟨0x85, 0x85⟩, ⟨0xA0, 0xA0⟩, ⟨0x1680, 0x1680⟩, ⟨0x2000, 0x200A⟩,
    ⟨0x2028, 0x2029⟩, ⟨0x202F, 0x202F⟩, ⟨0x205F, 0x205F⟩, ⟨0x3000, 0x3000⟩]

/-- Whether a character is a blank of any script. -/
def isBlank (c : Char) : Bool :=
  blankRanges.any (·.contains c)

/-- A list without its longest end on which `p` holds. -/
def dropEndWhile (p : Char → Bool) (cs : List Char) : List Char :=
  (cs.reverse.dropWhile p).reverse

/-- A list without its longest start and its longest end on which `p` holds. -/
def trimWhile (p : Char → Bool) (cs : List Char) : List Char :=
  dropEndWhile p (cs.dropWhile p)

/-- A text without the blanks around it. -/
def trim (s : String) : String :=
  String.ofList (trimWhile isBlank s.toList)

/-- Whether a string has no character but blanks. -/
def isAllBlank (s : String) : Bool :=
  s.toList.all isBlank

/-- A string without any `c` at its end. -/
def trimEndOf (c : Char) (s : String) : String :=
  String.ofList (dropEndWhile (· == c) s.toList)

/-- A string without any `c` at its two ends. -/
def trimOf (c : Char) (s : String) : String :=
  String.ofList (trimWhile (· == c) s.toList)

end Matchday.Text
