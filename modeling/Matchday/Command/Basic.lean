import Matchday.Error
import Matchday.Log

/-!
# Commands

## Main definitions

* `CommandResult`: everything that a command leaves to be shown.
* `Failure`: why a command gives up, with the causes behind it.
* `Failure.chain`, `Failure.report`: a failure in one line, and with its causes below it.
-/

namespace Matchday

/-- Everything that a command leaves to be shown.  Each text is followed by a line break. -/
structure CommandResult where
  exitCode : UInt32 := 0
  output : List String := []
  complaints : List String := []
  log : List LogLine := []
deriving Inhabited

namespace CommandResult

/-- Texts, each followed by a line break. -/
def joinLines (texts : List String) : String :=
  String.join (texts.map (· ++ "\n"))

/-- What a command prints as its result. -/
def outputText (r : CommandResult) : String :=
  joinLines r.output

/-- What a command prints as its complaints. -/
def complaintText (r : CommandResult) : String :=
  joinLines r.complaints

end CommandResult

/-- Why a command gives up, with the causes behind it, the nearest first. -/
structure Failure where
  message : String
  causes : List String := []
deriving DecidableEq, Repr, Inhabited

/-- The cause behind an error: trouble with files has one in the file system. -/
def SiteError.cause? : SiteError → Option String
  | io text => some text
  | _ => none

namespace Failure

/-- The failure of a step that an error stopped. -/
def ofError (step : String) (e : SiteError) : Failure where
  message := step
  causes := e.message :: e.cause?.toList

/-- The failure in one line. -/
def chain (f : Failure) : String :=
  ": ".intercalate (f.message :: f.causes)

/-- A text whose lines stand behind a margin; the first line has a mark in it. -/
def indent (mark margin text : String) : String :=
  mark ++ text.replace "\n" ("\n" ++ margin)

/-- A number that ends in the fifth column, with a colon. -/
def numberMark (i : Nat) : String :=
  "".pushn ' ' (5 - i.repr.length) ++ i.repr ++ ": "

/-- The causes, one below the other; several are numbered. -/
def causeLines : List String → List String
  | [] => []
  | [cause] => [indent "    " "    " cause]
  | causes => causes.mapIdx fun i cause => indent (numberMark i) "       " cause

/-- The failure with its causes below it. -/
def report (f : Failure) : String :=
  let causes := if f.causes.isEmpty then [] else ["", "Caused by:"] ++ causeLines f.causes
  "\n".intercalate (("Error: " ++ f.message) :: causes)

/-- The result of a command that gives up. -/
def result (f : Failure) : CommandResult where
  exitCode := 1
  complaints := [f.report]

end Failure

end Matchday
