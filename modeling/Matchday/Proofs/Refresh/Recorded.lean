import Matchday.Proofs.Storage.Record
import Matchday.Refresh.Run

/-!
# What a run has recorded

A run decides step by step what becomes of the fetched leagues, and records each step.  Nothing of
the record is lost or counted twice: wherever the run ends, its report is the one that can be read
off the fetched leagues, the site and the written files afterwards.

## Main definitions

* `assembledSite`, `FallsShort`: the site to check, and when there is none.
* `Plan.of`: what becomes of fetched leagues.
* `Plan.carryOut`: what is written then.
* `Plan.report`: the report that can be read off a plan that is carried out.
* `conclude`: what a run does with the leagues that it has fetched.

## Main results

* `Plan.of_cases`: what becomes of fetched leagues.
* `conclude_eq`: a run that has fetched carries out its plan and has recorded its report.
-/

namespace Matchday

/-- The site to check. -/
def assembledSite (config : Config) (fetched : List FetchedCountry) : Site :=
  if usesSample config fetched then .sample config.site.name
  else FetchedCountry.site config fetched

/-- Too few leagues were fetched, and the built-in site does not stand in for them. -/
def FallsShort (config : Config) (fetched : List FetchedCountry) : Prop :=
  usesSample config fetched = false ∧ successRate config fetched < config.fetch.minSuccessRate

theorem not_fallsShort_iff {config : Config} {fetched : List FetchedCountry} :
    ¬ FallsShort config fetched ↔
      usesSample config fetched ∨ ¬ successRate config fetched < config.fetch.minSuccessRate := by
  rw [FallsShort, not_and_or, Bool.not_eq_false]

namespace Plan

/-! ### What becomes of fetched leagues -/

/-- What becomes of fetched leagues. -/
def of (rules : RuleSet) (config : Config) (fetched : List FetchedCountry) : Plan :=
  if !usesSample config fetched && successRate config fetched < config.fetch.minSuccessRate then
    belowThreshold
  else
    let site := assembledSite config fetched
    match rules.evaluate site with
    | [] => publish site
    | diagnostics => reject site diagnostics

/-- **What becomes of fetched leagues.**  They fall short, or the site made of them is published
when the rules are silent about it and rejected otherwise. -/
theorem of_cases (rules : RuleSet) (config : Config) (fetched : List FetchedCountry) :
    FallsShort config fetched ∧ of rules config fetched = .belowThreshold ∨
      ¬ FallsShort config fetched ∧ ∃ site, assembledSite config fetched = site ∧
        (rules.evaluate site = [] ∧ of rules config fetched = .publish site ∨
          rules.evaluate site ≠ [] ∧
            of rules config fetched = .reject site (rules.evaluate site)) := by
  have hshort : FallsShort config fetched ↔ (!usesSample config fetched &&
      decide (successRate config fetched < config.fetch.minSuccessRate)) = true := by
    rw [FallsShort, Bool.and_eq_true, Bool.not_eq_true', decide_eq_true_eq]
  rw [hshort, of]
  split
  next h => exact Or.inl ⟨h, rfl⟩
  next h =>
    refine Or.inr ⟨h, _, rfl, ?_⟩
    cases hevaluate : rules.evaluate (assembledSite config fetched) with
    | nil => exact Or.inl ⟨rfl, by simp [hevaluate]⟩
    | cons d ds => exact Or.inr ⟨List.cons_ne_nil _ _, by simp [hevaluate]⟩

/-! ### Reports -/

/-- How a run ends, by its plan and the files. -/
def outcome (written : Written) : Plan → Outcome
  | belowThreshold => .fetchBelowThreshold
  | reject .. => .validationFailed
  | publish _ => if written.failures.isEmpty then .success else .writeError

/-- The stages before the end. -/
def workStages : Plan → List Stage
  | belowThreshold => [.fetching]
  | reject .. => [.fetching, .normalizing, .validating]
  | publish _ => [.fetching, .normalizing, .validating, .writing]

/-- The violations that stand in the way of a site. -/
def diagnostics : Plan → List Diagnostic
  | reject _ diagnostics => diagnostics
  | _ => []

/-- The site that is assembled, if it comes to that. -/
def site? : Plan → Option Site
  | belowThreshold => none
  | reject site _ => some site
  | publish site => some site

/-- The report that can be read off a plan that is carried out. -/
def report (config : Config) (fetched : List FetchedCountry) (written : Written) (plan : Plan) :
    RefreshResult where
  outcome := plan.outcome written
  stages := plan.workStages ++ [.done (plan.outcome written)]
  countriesRequested := config.fetch.countries.length
  countriesSucceeded := FetchedCountry.countriesSucceeded fetched
  countriesFailed :=
    config.fetch.countries.length - FetchedCountry.countriesSucceeded fetched
  leaguesRequested := config.leaguesRequested
  leaguesSucceeded := FetchedCountry.leaguesSucceeded fetched
  successRate := successRate config fetched
  usedSample := usesSample config fetched
  totalMatches := plan.site?.elim (FetchedCountry.totalMatches fetched) Site.totalMatches
  diagnosticCount := (plan.diagnostics.map Diagnostic.text).length
  apiErrors := FetchedCountry.allErrors fetched
  diagnostics := plan.diagnostics.map Diagnostic.text
  writeErrors := written.failures
  pagesWritten := written.pageReport.written.length
  modelWritten := written.modelWritten

/-! ### Carrying out a plan -/

/-- The files that are handed to a storage when a plan is carried out. -/
def files (output : OutputSettings) : Plan → List (String × ByteArray)
  | publish site => site.files output
  | belowThreshold => []
  | reject .. => []

variable {m : Type → Type} [Monad m]

/-- Carries out a plan. -/
def carryOut (storage : Storage m) (output : OutputSettings) : Plan → m Written
  | publish site => publishSite storage output site
  | belowThreshold => pure {}
  | reject .. => pure {}

end Plan

/-! ### Runs after the fetching -/

/-- The record of a run that has fetched. -/
def RunRecord.ofFetched (config : Config) (fetched : List FetchedCountry) : RunRecord :=
  ((start config).enter .fetching).noteFetched config fetched

variable {m : Type → Type} [Monad m]

/-- A run after the fetching. -/
def conclude (rules : RuleSet) (storage : Storage m) (config : Config)
    (fetched : List FetchedCountry) : m RefreshRun :=
  refreshFetched rules storage config fetched (.ofFetched config fetched)

theorem refresh_eq_bind (rules : RuleSet) (client : FixtureClient m) (storage : Storage m)
    (config : Config) : refresh rules client storage config =
      fetchAll client config.fetch >>= conclude rules storage config :=
  rfl

/-- A run whose plan is carried out, with the report that can be read off it. -/
def RefreshRun.ended (config : Config) (fetched : List FetchedCountry) (plan : Plan)
    (written : Written) : RefreshRun :=
  { config, fetched, plan, written, result := plan.report config fetched written }

/-- What a run has recorded that publishes a site. -/
theorem finish_noteWritten (config : Config) (fetched : List FetchedCountry) (site : Site)
    (written : Written) :
    let checked := (((RunRecord.ofFetched config fetched).enter .normalizing).noteMatches
      site.totalMatches).enter .validating
    let record := (checked.enter .writing).noteWritten written
    record.finish record.writeOutcome = (Plan.publish site).report config fetched written := by
  intro checked record
  have hrecord : record = _ := RunRecord.noteWritten_eq rfl written
  rw [hrecord]
  rfl

/-- **A run that has fetched carries out its plan**, and when it ends it has recorded what can be
read off the plan and the written files. -/
theorem conclude_eq [LawfulMonad m] (rules : RuleSet) (storage : Storage m) (config : Config)
    (fetched : List FetchedCountry) : conclude rules storage config fetched =
      ((Plan.of rules config fetched).carryOut storage config.output >>= fun written =>
        pure (.ended config fetched (Plan.of rules config fetched) written)) := by
  have hsample : (RunRecord.ofFetched config fetched).usedSample = usesSample config fetched := rfl
  have hrate : (RunRecord.ofFetched config fetched).successRate = successRate config fetched := rfl
  rw [conclude, refreshFetched, Plan.of, hsample, hrate]
  split
  next =>
    rw [Plan.carryOut, pure_bind]
    rfl
  next =>
    change (match rules.evaluate (assembledSite config fetched) with | [] => _ | _ => _) = _
    cases hevaluate : rules.evaluate (assembledSite config fetched) with
    | nil =>
      simp only [hevaluate, Plan.carryOut]
      refine bind_congr fun written => congrArg pure ?_
      rw [RefreshRun.ended, ← finish_noteWritten]
      rfl
    | cons d ds =>
      simp only [hevaluate, Plan.carryOut, pure_bind]
      rfl

end Matchday
