import Matchday.Decimal.Text
import Matchday.Json.Basic

/-!
# Results of a refresh

## Main definitions

* `Outcome`, `Stage`: how a run ends, and the stages that it goes through.
* `RefreshResult`: everything that is reported about a run.
* `RefreshResult.summary`, `RefreshResult.members`: the report as text and as JSON.
-/

namespace Matchday

/-- How a run ends. -/
inductive Outcome where
  | success
  /-- Too few leagues were fetched. -/
  | fetchBelowThreshold
  /-- The site breaks a rule. -/
  | validationFailed
  /-- A file could not be written. -/
  | writeError
deriving DecidableEq, Repr, Inhabited

namespace Outcome

/-- All outcomes. -/
def all : List Outcome :=
  [success, fetchBelowThreshold, validationFailed, writeError]

/-- The outcome as reports show it. -/
def name : Outcome → String
  | success => "SUCCESS"
  | fetchBelowThreshold => "FETCH_BELOW_THRESHOLD"
  | validationFailed => "VALIDATION_FAILED"
  | writeError => "WRITE_ERROR"

/-- The name in log lines. -/
def logName : Outcome → String
  | success => "Success"
  | fetchBelowThreshold => "FetchBelowThreshold"
  | validationFailed => "ValidationFailed"
  | writeError => "WriteError"

/-- The exit code of a program that ends this way. -/
def exitCode : Outcome → UInt32
  | success => 0
  | fetchBelowThreshold => 2
  | validationFailed => 4
  | writeError => 5

end Outcome

/-- A stage of a run. -/
inductive Stage where
  | fetching
  | normalizing
  | validating
  | writing
  | done (outcome : Outcome)
deriving DecidableEq, Repr, Inhabited

namespace Stage

/-- A stage in the report. -/
def json : Stage → Json
  | fetching => .text "FETCHING"
  | normalizing => .text "NORMALIZING"
  | validating => .text "VALIDATING"
  | writing => .text "WRITING"
  | done outcome => .object [("DONE", .text outcome.name)]

/-- The name in log lines. -/
def logName : Stage → String
  | fetching => "Fetching"
  | normalizing => "Normalizing"
  | validating => "Validating"
  | writing => "Writing"
  | done outcome => s!"Done({outcome.logName})"

/-- The name under which a monitor notes the stage; the end of a run is none. -/
def clockName? : Stage → Option String
  | fetching => some "fetch"
  | normalizing => some "normalize"
  | validating => some "validate"
  | writing => some "write"
  | done _ => none

end Stage

/-- The report of a run. -/
structure RefreshResult where
  outcome : Outcome
  stages : List Stage := []
  countriesRequested : Nat := 0
  countriesSucceeded : Nat := 0
  countriesFailed : Nat := 0
  leaguesRequested : Nat := 0
  leaguesSucceeded : Nat := 0
  successRate : Float := 0
  /-- Whether the built-in site stands in for fetched matches. -/
  usedSample : Bool := false
  totalMatches : Nat := 0
  diagnosticCount : Nat := 0
  apiErrors : List String := []
  diagnostics : List String := []
  writeErrors : List String := []
  pagesWritten : Nat := 0
  modelWritten : Bool := false
deriving Repr, Inhabited

namespace RefreshResult

/-- Whether a run ended well. -/
def isSuccess (r : RefreshResult) : Bool :=
  r.outcome == .success

/-- A rate as a whole number of percent. -/
def percent (rate : Float) : String :=
  Decimal.fixed 0 (rate * 100)

/-- A list under a title; an empty one is left out. -/
def titled (title : String) (items : List String) : List String :=
  if items.isEmpty then []
  else s!"{title} ({items.length}):" :: items.map fun item => "  - " ++ item

/-- The lines of the report as text. -/
def lines (r : RefreshResult) : List String :=
  [s!"Outcome: {r.outcome.name}",
    s!"Countries: {r.countriesRequested} requested, {r.countriesSucceeded} succeeded, {r.countriesFailed} failed",
    s!"Leagues: {r.leaguesSucceeded}/{r.leaguesRequested} succeeded ({percent r.successRate}%)",
    s!"Matches: {r.totalMatches}"] ++
  (if r.usedSample then ["Data: built-in sample site"] else []) ++
  (if r.outcome = .success ∨ r.outcome = .writeError then
    [s!"Pages written: {r.pagesWritten}, model written: {r.modelWritten}"] else []) ++
  titled "API errors" r.apiErrors ++ titled "Diagnostics" r.diagnostics ++
  titled "Write errors" r.writeErrors

/-- The report as text. -/
def summary (r : RefreshResult) : String :=
  "\n".intercalate r.lines

/-- The members of the report as JSON. -/
def members (r : RefreshResult) : List (String × Json) :=
  [("outcome", .text r.outcome.name), ("stages", .array (r.stages.map Stage.json)),
    ("countries_requested", .int r.countriesRequested),
    ("countries_succeeded", .int r.countriesSucceeded),
    ("countries_failed", .int r.countriesFailed), ("leagues_requested", .int r.leaguesRequested),
    ("leagues_succeeded", .int r.leaguesSucceeded), ("success_rate", .float r.successRate),
    ("used_sample", .bool r.usedSample), ("total_matches", .int r.totalMatches),
    ("diagnostic_count", .int r.diagnosticCount), ("api_errors", .array (r.apiErrors.map .text)),
    ("diagnostics", .array (r.diagnostics.map .text)),
    ("write_errors", .array (r.writeErrors.map .text)), ("pages_written", .int r.pagesWritten),
    ("model_written", .bool r.modelWritten)]

end RefreshResult

end Matchday
