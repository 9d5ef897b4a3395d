import Matchday.Page.Written
import Matchday.Refresh.Fetch
import Matchday.Refresh.Result
import Matchday.Rule.Diagnostic

/-!
# The record of a run

While a run advances it keeps a record: which stages it has entered, what it has counted so far and
what has gone wrong.  Each stage adds to the record, and when the run ends the record becomes its
report.

## Main definitions

* `successRate`, `usesSample`: the share of leagues that succeeded, and whether to do without them.
* `RunRecord`: the record of a run.
* `RunRecord.start`: the record with which a run starts.
* `RunRecord.enter`, `RunRecord.noteFetched`, `RunRecord.noteMatches`, `RunRecord.noteDiagnostics`,
  `RunRecord.noteWritten`: what the stages add.
* `RunRecord.finish`: the report of a run that ends.
-/

namespace Matchday

/-- The share of requested leagues that succeeded. -/
def successRate (config : Config) (fetched : List FetchedCountry) : Float :=
  if config.leaguesRequested = 0 then 0
  else Float.ofNat (FetchedCountry.leaguesSucceeded fetched) / Float.ofNat config.leaguesRequested

/-- The built-in site is used only when no league succeeded and the configuration allows it. -/
def usesSample (config : Config) (fetched : List FetchedCountry) : Bool :=
  config.fetch.fallbackToSample && FetchedCountry.leaguesSucceeded fetched == 0

/-- The record of a run that is under way. -/
structure RunRecord where
  stages : List Stage := []
  countriesRequested : Nat := 0
  countriesSucceeded : Nat := 0
  leaguesRequested : Nat := 0
  leaguesSucceeded : Nat := 0
  successRate : Float := 0
  usedSample : Bool := false
  totalMatches : Nat := 0
  apiErrors : List String := []
  diagnostics : List String := []
  writeErrors : List String := []
  pagesWritten : Nat := 0
  modelWritten : Bool := false
deriving Repr, Inhabited

namespace RunRecord

/-- The record with which a run starts: it knows how much is to be fetched. -/
def start (config : Config) : RunRecord where
  countriesRequested := config.fetch.countries.length
  leaguesRequested := config.leaguesRequested

/-- Enters a stage. -/
def enter (record : RunRecord) (stage : Stage) : RunRecord :=
  { record with stages := record.stages ++ [stage] }

/-- Counts what was fetched and notes the errors. -/
def noteFetched (record : RunRecord) (config : Config) (fetched : List FetchedCountry) :
    RunRecord :=
  { record with
    countriesSucceeded := FetchedCountry.countriesSucceeded fetched
    leaguesSucceeded := FetchedCountry.leaguesSucceeded fetched
    successRate := Matchday.successRate config fetched
    usedSample := usesSample config fetched
    apiErrors := FetchedCountry.allErrors fetched }

/-- Notes the number of matches. -/
def noteMatches (record : RunRecord) (totalMatches : Nat) : RunRecord :=
  { record with totalMatches }

/-- Notes the violations by a site. -/
def noteDiagnostics (record : RunRecord) (diagnostics : List Diagnostic) : RunRecord :=
  { record with diagnostics := diagnostics.map Diagnostic.text }

/-- Notes what became of the pages. -/
def notePages (record : RunRecord) (report : WriteReport) : RunRecord :=
  { record with pagesWritten := report.written.length, writeErrors := report.failures }

/-- Notes what became of the model text, behind the failures of the pages. -/
def noteModel (record : RunRecord) (attempt : WriteAttempt) : RunRecord :=
  match attempt.failure? with
  | none => { record with modelWritten := true }
  | some failure => { record with writeErrors := record.writeErrors ++ [failure] }

/-- Notes what became of the files of a site. -/
def noteWritten (record : RunRecord) (written : Written) : RunRecord :=
  let record := record.notePages written.pageReport
  match written.model with
  | none => record
  | some attempt => record.noteModel attempt

/-- The end of a run that has written: it fails when a file could not be written. -/
def writeOutcome (record : RunRecord) : Outcome :=
  if record.writeErrors.isEmpty then .success else .writeError

/-- The report of a run that ends. -/
def finish (record : RunRecord) (outcome : Outcome) : RefreshResult :=
  let record := record.enter (.done outcome)
  { outcome
    stages := record.stages
    countriesRequested := record.countriesRequested
    countriesSucceeded := record.countriesSucceeded
    countriesFailed := record.countriesRequested - record.countriesSucceeded
    leaguesRequested := record.leaguesRequested
    leaguesSucceeded := record.leaguesSucceeded
    successRate := record.successRate
    usedSample := record.usedSample
    totalMatches := record.totalMatches
    diagnosticCount := record.diagnostics.length
    apiErrors := record.apiErrors
    diagnostics := record.diagnostics
    writeErrors := record.writeErrors
    pagesWritten := record.pagesWritten
    modelWritten := record.modelWritten }

/-- Without a model text the pages tell everything; with one it adds its failure or its success. -/
theorem noteWritten_eq {record : RunRecord} (h : record.modelWritten = false) (written : Written) :
    record.noteWritten written = { record with
      pagesWritten := written.pageReport.written.length
      writeErrors := written.failures
      modelWritten := written.modelWritten } := by
  obtain ⟨pages, _ | ⟨path, size, _ | _⟩⟩ := written <;>
    simp [noteWritten, notePages, noteModel, WriteAttempt.failure?, WriteAttempt.written?,
      Written.failures, Written.modelWritten, h, Written.pageReport]

end RunRecord

end Matchday
