import Matchday.Proofs.Refresh.Published
import Matchday.Proofs.Refresh.Reported
import Matchday.Proofs.Storage.Attempt

/-!
# What a run writes and what it reports about it

A run that writes attempts every file of its site.  A file that cannot be written stops none of the
others, and the report tells for each of them whether it was written.

## Main definitions

* `RefreshResult.AccountsForFiles`: a report that accounts for the files of a site.

## Main results

* `refresh_accounts_for_files`: what is attempted and what is reported, whichever paths fail.
-/

namespace Matchday

variable {σ : Type}

/-- What is known about the answers of the storage is known about the files of a published site. -/
theorem gives_refresh_isFor {P : String → Except SiteError Unit → Prop}
    {storage : Storage (StateM σ)}
    (h : ∀ path content, Gives (P path) (storage.write path content)) (rules : RuleSet)
    (client : FixtureClient (StateM σ)) (config : Config) :
    Gives (fun r => ∀ site, r.plan = .publish site → r.written.IsFor P config.output site)
      (refresh rules client storage config) := by
  have hwritten (plan : Plan) :
      Gives (fun written => ∀ site, plan = .publish site → written.IsFor P config.output site)
        (plan.carryOut storage config.output) := by
    cases plan with
    | publish site =>
      rintro s _ ⟨⟩
      exact gives_publishSite h config.output site s
    | belowThreshold => exact .pure nofun
    | reject site diagnostics => exact .pure nofun
  rw [refresh_eq_bind]
  refine (Gives.trivial _).bind fun fetched _ => ?_
  rw [conclude_eq]
  exact (hwritten _).bind fun _ hwritten => .pure hwritten

/-- A report that accounts for the files of a site when certain paths fail. -/
structure RefreshResult.AccountsForFiles (fails : String → Bool) (output : OutputSettings)
    (site : Site) (r : RefreshResult) : Prop where
  pagesWritten_eq : r.pagesWritten = (site.pagePaths output.siteDir).countP (!fails ·)
  pagesWritten_add : r.pagesWritten + (site.pagePaths output.siteDir).countP fails =
    1 + site.countries.length + site.leagues.length
  /-- The failing pages in order, then the model text if it fails. -/
  writeErrors : ∃ pageErrors modelErrors, r.writeErrors = pageErrors ++ modelErrors ∧
    List.Forall₂ IsLedInBy ((site.pagePaths output.siteDir).filter fails) pageErrors ∧
    List.Forall₂ IsLedInBy (output.modelFile.toList.filter fails) modelErrors
  modelWritten_iff : r.modelWritten ↔ ∃ path, output.modelFile = some path ∧ fails path = false
  writeError_iff : r.outcome = .writeError ↔
    ∃ path ∈ site.pagePaths output.siteDir ++ output.modelFile.toList, fails path
  success_iff : r.outcome = .success ↔
    ∀ path ∈ site.pagePaths output.siteDir ++ output.modelFile.toList, fails path = false

/-! ### Written files -/

namespace Written.IsFor

variable {fails : String → Bool} {output : OutputSettings} {site : Site} {w : Written}

/-- The model text is written when it is wanted and its path does not fail. -/
theorem modelWritten_iff (h : w.IsFor (fun path result => fails path = !result.isOk) output site) :
    w.modelWritten ↔ ∃ path, output.modelFile = some path ∧ fails path = false := by
  have hmodel := filterMap_written?_eq h.model
  have hwritten : w.modelWritten = !(w.model.toList.filterMap WriteAttempt.written?).isEmpty := by
    rw [Written.modelWritten]
    rcases w.model with _ | a
    · rfl
    · cases ha : a.written? <;> simp [ha]
  rw [hwritten, hmodel]
  cases output.modelFile with
  | none => simp
  | some path => cases hpath : fails path <;> simp [hpath]

/-- The failures of the pages, then that of the model text. -/
theorem forall₂_failures
    (h : w.IsFor (fun path result => fails path = !result.isOk) output site) :
    List.Forall₂ IsLedInBy
      ((site.pagePaths output.siteDir ++ output.modelFile.toList).filter fails) w.failures := by
  rw [List.filter_append]
  exact List.rel_append (forall₂_filterMap_failure? h.pages) (forall₂_filterMap_failure? h.model)

/-- Nothing is reported when no path fails. -/
theorem failures_eq_nil_iff
    (h : w.IsFor (fun path result => fails path = !result.isOk) output site) :
    w.failures = [] ↔
      ∀ path ∈ site.pagePaths output.siteDir ++ output.modelFile.toList, fails path = false := by
  rw [← List.length_eq_zero_iff, ← h.forall₂_failures.length_eq, List.length_eq_zero_iff,
    List.filter_eq_nil_iff]
  simp only [Bool.not_eq_true]

end Written.IsFor

/-- The report of a run that publishes a site accounts for its files. -/
theorem Written.IsFor.accountsForFiles {fails : String → Bool} {output : OutputSettings}
    {site : Site} {w : Written} (config : Config) (fetched : List FetchedCountry)
    (h : w.IsFor (fun path result => fails path = !result.isOk) output site) :
    ((Plan.publish site).report config fetched w).AccountsForFiles fails output site := by
  have hpages : w.pageReport.written.length =
      (site.pagePaths output.siteDir).countP (!fails ·) := by
    rw [List.countP_eq_length_filter, ← filterMap_written?_eq h.pages]
    rfl
  have hsuccess : (Plan.publish site).outcome w = .success ↔ w.failures = [] := by
    rw [Plan.outcome, ← List.isEmpty_iff]
    split <;> simp [*]
  have herror : (Plan.publish site).outcome w = .writeError ↔ w.failures ≠ [] :=
    Plan.outcome_eq_writeError_iff.trans (and_iff_right ⟨site, rfl⟩)
  refine {
    pagesWritten_eq := hpages
    pagesWritten_add := ?_
    writeErrors := ⟨_, _, rfl, forall₂_filterMap_failure? h.pages,
      forall₂_filterMap_failure? h.model⟩
    modelWritten_iff := h.modelWritten_iff
    writeError_iff := ?_
    success_iff := hsuccess.trans h.failures_eq_nil_iff }
  · have hcount := List.length_eq_countP_add_countP fails (l := site.pagePaths output.siteDir)
    rw [Plan.report, hpages, ← Site.length_pagePaths output.siteDir, add_comm]
    simpa only [Bool.not_eq_true, Bool.decide_eq_false] using hcount.symm
  · refine herror.trans ?_
    rw [Ne, h.failures_eq_nil_iff]
    simp only [not_forall, Bool.not_eq_false, exists_prop]

/-- **A run that writes attempts every file of its site, and its report accounts for them**,
whichever paths of the storage fail. -/
theorem refresh_accounts_for_files (rules : RuleSet) (client : FixtureClient (StateM σ))
    (storage : Storage (StateM σ)) {fails : String → Bool} (hfails : storage.FailsAt fails)
    (config : Config) {s s' : σ} {run : RefreshRun}
    (hrun : (refresh rules client storage config).run s = (run, s'))
    (hwriting : .writing ∈ run.result.stages) :
    ∃ site, run.plan = .publish site ∧ assembledSite config run.fetched = site ∧
      rules.evaluate site = [] ∧
      ((refresh rules client.beside storage.noting config).run []).run s =
        ((run, site.pages.map (Page.file config.output.siteDir) ++
          config.output.modelFile.toList.map (·, site.modelText.toUTF8)), s') ∧
      run.result.AccountsForFiles fails config.output site := by
  have hfor := (gives_refresh rules client storage config).of_run_eq hrun
  obtain ⟨site, hplan⟩ := hfor.writing_mem_stages_iff.1 hwriting
  obtain ⟨hsite, hevaluate, hfiles⟩ := hfor.of_publish hplan
  have hwritten := (gives_refresh_isFor hfails rules client config).of_run_eq hrun site hplan
  refine ⟨site, hplan, hsite, hevaluate, ?_, ?_⟩
  · rw [run_refresh_noting, hrun]
    dsimp only
    rw [hfiles]
    rfl
  · rw [hfor.result_eq, hplan]
    exact hwritten.accountsForFiles config run.fetched

/-! ### A model text in the place of a page -/

/-- Settings with one league whose model text goes to the path of a page. -/
def Config.modelOverPage : Config :=
  { oneLeague with output := { path := "out", modelFile := some "site/spain/index.json" } }

/-- A memory that refuses the page of a country. -/
def refusingSpain : Storage (StateM Memory) :=
  (Memory.storage (m := Id)).refusing (· == "site/spain/index.json")

/-- A run of one league with this memory. -/
def modelOverPageRun : RefreshRun × Memory :=
  (refresh .standard (.constantly (.ok [.played])) refusingSpain .modelOverPage).run oldMemory

/-- The page of the country and the model text fail, and both are reported. -/
theorem modelOverPage_accounts_for_files :
    refusingSpain.FailsAt (· == "site/spain/index.json") ∧
      .writing ∈ modelOverPageRun.1.result.stages ∧
      modelOverPageRun.1.result.writeErrors.length = 2 ∧
      ∃ site, modelOverPageRun.1.plan = .publish site ∧
        modelOverPageRun.1.result.AccountsForFiles (· == "site/spain/index.json")
          Config.modelOverPage.output site := by
  have hfails : refusingSpain.FailsAt (· == "site/spain/index.json") :=
    Storage.failsAt_refusing _
  have hwriting : .writing ∈ modelOverPageRun.1.result.stages := by decide +kernel
  obtain ⟨site, hplan, -, -, -, haccounts⟩ :=
    refresh_accounts_for_files _ _ _ hfails _ Prod.mk.eta.symm hwriting
  exact ⟨hfails, hwriting, by decide +kernel, site, hplan, haccounts⟩

end Matchday
