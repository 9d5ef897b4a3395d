/-!
# Log lines

What a run tells about itself while it goes on.

## Main definitions

* `LogLine`: a message and how important it is.
* `LogLine.text`: a line as it is shown.
* `LogLine.shown`: the lines that are shown.
-/

namespace Matchday

/-- How much a line of the log matters. -/
inductive LogLevel where
  | error
  | warning
  | info
  | debug
deriving DecidableEq, Repr, Inhabited

/-- The level as the log shows it. -/
def LogLevel.name : LogLevel → String
  | error => "ERROR"
  | warning => "WARN"
  | info => "INFO"
  | debug => "DEBUG"

/-- One line of the log. -/
structure LogLine where
  level : LogLevel
  message : String
deriving DecidableEq, Repr, Inhabited

namespace LogLine

/-- A line of the log as it is printed. -/
def text (line : LogLine) : String :=
  line.level.name ++ " " ++ line.message

/-- The lines that are shown; those of the lowest level only on request. -/
def shown (verbose : Bool) (lines : List LogLine) : List LogLine :=
  lines.filter fun line => verbose || line.level != .debug

end LogLine

end Matchday
