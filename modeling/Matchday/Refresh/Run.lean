import Matchday.Document.Sample
import Matchday.Page.Compile
import Matchday.Refresh.Clock
import Matchday.Refresh.Record

/-!
# A refresh run

A run fetches all leagues, decides whether enough of them came back, checks the site made of them
against the rules, and writes its pages and its model text.  Nothing is written unless the site is
valid.

## Main definitions

* `Plan`: what became of the fetched leagues.
* `refresh`: a run.
* `RefreshRun.log`: what is logged about a run.
-/

namespace Matchday

/-- What became of the fetched leagues: they were too few, or a site was made of them. -/
inductive Plan where
  | belowThreshold
  | reject (site : Site) (diagnostics : List Diagnostic)
  | publish (site : Site)
deriving Inhabited

/-- A run that has ended. -/
structure RefreshRun where
  config : Config
  fetched : List FetchedCountry
  plan : Plan
  written : Written
  /-- The report of the run. -/
  result : RefreshResult
deriving Inhabited

section Run

variable {m : Type → Type} [Monad m]

/-- Writes the files of a site. -/
def publishSite (storage : Storage m) (output : OutputSettings) (site : Site) : m Written := do
  let pages ← writePages storage output.siteDir site.pages
  match output.modelFile with
  | none => return { pages }
  | some path => return { pages, model := some (← writeModel storage site path) }

/-- The rest of a run, when everything is fetched.  It can end in four places, each with what is
recorded up to there. -/
def refreshFetched (rules : RuleSet) (storage : Storage m) (config : Config)
    (fetched : List FetchedCountry) (record : RunRecord) : m RefreshRun := do
  if !record.usedSample && record.successRate < config.fetch.minSuccessRate then
    let record := record.noteMatches (FetchedCountry.totalMatches fetched)
    return {
      config, fetched, plan := .belowThreshold, written := {}
      result := record.finish .fetchBelowThreshold }
  let record := record.enter .normalizing
  let site := if record.usedSample then .sample config.site.name
    else FetchedCountry.site config fetched
  let record := record.noteMatches site.totalMatches
  let record := record.enter .validating
  match rules.evaluate site with
  | [] =>
    let record := record.enter .writing
    let written ← publishSite storage config.output site
    let record := record.noteWritten written
    return {
      config, fetched, plan := .publish site, written
      result := record.finish record.writeOutcome }
  | diagnostics =>
    let record := record.noteDiagnostics diagnostics
    return {
      config, fetched, plan := .reject site diagnostics, written := {}
      result := record.finish .validationFailed }

/-- A run with the given rules and settings. -/
def refresh (rules : RuleSet) (client : FixtureClient m) (storage : Storage m) (config : Config) :
    m RefreshRun := do
  let record := (RunRecord.start config).enter .fetching
  let fetched ← fetchAll client config.fetch
  refreshFetched rules storage config fetched (record.noteFetched config fetched)

end Run

namespace RefreshRun

/-- The clock of a monitor that watched the run to its end. -/
def clock (r : RefreshRun) (start : StageClock) : StageClock :=
  ((r.result.stages.filterMap Stage.clockName?).foldl StageClock.enter start).finish.2

/-! ### The log -/

/-- What is logged when a stage begins. -/
def stageLog (s : Stage) : LogLine :=
  ⟨.debug, s!"Pipeline state: {s.logName}"⟩

/-- What is logged about fetching. -/
def fetchLog (r : RefreshRun) : List LogLine :=
  r.fetched.flatMap FetchedCountry.log ++
    [⟨.info, s!"📡 Fetched {r.result.leaguesSucceeded}/{r.result.leaguesRequested} leagues ({RefreshResult.percent r.result.successRate}%), {r.result.apiErrors.length} error(s)"⟩]

/-- What is logged when the built-in site takes the place of another. -/
def sampleLog (r : RefreshRun) : List LogLine :=
  if r.result.usedSample then
    [⟨.warning, "No league returned usable matches, publishing the built-in sample site"⟩]
  else []

/-- What is logged about the assembled site. -/
def assemblyLog (r : RefreshRun) : List LogLine :=
  [stageLog .normalizing, ⟨.info, s!"📊 Assembled {r.result.totalMatches} match(es)"⟩,
    stageLog .validating]

/-- What is logged about writing. -/
def writeLog (r : RefreshRun) : List LogLine :=
  r.written.pages.map WriteAttempt.log ++
    [match r.written.failures with
      | [] => ⟨.info, s!"✅ Wrote {r.result.pagesWritten} page(s)"⟩
      | failures => ⟨.error, s!"❌ {failures.length} write failure(s)"⟩]

/-- What is logged after the fetching. -/
def decisionLog (r : RefreshRun) : List LogLine :=
  match r.plan with
  | .belowThreshold =>
    [⟨.error, s!"❌ Success rate {Decimal.fixed 2 r.result.successRate} is below the minimum {Decimal.fixed 2 r.config.fetch.minSuccessRate}"⟩]
  | .reject _ diagnostics =>
    r.sampleLog ++ r.assemblyLog ++
      ⟨.error, s!"❌ Validation failed with {diagnostics.length} diagnostic(s)"⟩ ::
      diagnostics.map fun d => ⟨.debug, d.text⟩
  | .publish _ => r.sampleLog ++ r.assemblyLog ++ stageLog .writing :: r.writeLog

/-- Everything that the run logs. -/
def log (r : RefreshRun) : List LogLine :=
  [⟨.info, s!"🚀 Starting refresh for site '{r.config.site.name}'"⟩, stageLog .fetching] ++
    r.fetchLog ++ r.decisionLog ++ [stageLog (.done r.result.outcome)]

end RefreshRun

end Matchday
