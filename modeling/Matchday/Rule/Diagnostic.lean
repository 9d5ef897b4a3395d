import Matchday.Document.Basic

/-!
# Diagnostics

A rule looks at one node of a document and reports what is wrong with it.  It is told nothing of
what other rules report.

## Main definitions

* `RuleCode`: the stable number of a rule, written `0xFCnnn`.
* `Diagnostic`: one violation of a rule at a position.
* `NodeRule`: a rule for nodes of one kind.
-/

namespace Matchday

/-- The stable number of a rule. -/
structure RuleCode where
  number : UInt16
deriving DecidableEq, Repr, Inhabited

namespace RuleCode

/-- The number with at least three digits, behind the mark of all rule codes. -/
def text (c : RuleCode) : String :=
  let digits := Nat.toDigits 10 c.number.toNat
  "0xFC" ++ String.ofList (List.replicate (3 - digits.length) '0' ++ digits)

end RuleCode

/-- One violation of a rule. -/
structure Diagnostic where
  code : RuleCode
  message : String
  pos : Position
deriving DecidableEq, Repr, Inhabited

namespace Diagnostic

/-- A violation as it is shown: the code, then the message. -/
def text (d : Diagnostic) : String :=
  d.code.text ++ " " ++ d.message

end Diagnostic

/-- A rule for nodes of one kind: a code, a name, and the violations that it finds in a node, in
order.  The violations may have any code. -/
structure NodeRule (Node : Type) where
  code : RuleCode
  name : String
  check : Node → List Diagnostic

end Matchday
