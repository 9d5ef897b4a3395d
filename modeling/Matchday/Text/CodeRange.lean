/-!
# Sets of code points

Tables of character classes are lists of ranges, or of runs that take every code point or every
second one.

## Main definitions

* `CodeRange`: an interval of code points.
* `CodeRun`: evenly spaced code points.
-/

namespace Matchday

/-- The code points from `first` to `last`. -/
structure CodeRange where
  first : Nat
  last : Nat
deriving Repr, DecidableEq

namespace CodeRange

/-- Whether the code of a character is in a range. -/
def contains (r : CodeRange) (c : Char) : Bool :=
  r.first ≤ c.toNat && c.toNat ≤ r.last

end CodeRange

/-- The `size` code points `first`, `first + stride`, `first + 2 * stride`, and so on. -/
structure CodeRun where
  first : Nat
  size : Nat
  stride : Nat
deriving Repr, DecidableEq

namespace CodeRun

/-- Whether the code of a character is one of a run. -/
def contains (r : CodeRun) (c : Char) : Bool :=
  r.first ≤ c.toNat && c.toNat < r.first + r.size * r.stride &&
    (c.toNat - r.first) % r.stride == 0

end CodeRun

end Matchday
