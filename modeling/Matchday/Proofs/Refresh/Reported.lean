import Matchday.Proofs.Refresh.Ended

/-!
# How a run is reported to end

A report tells in several places how the run has ended: by the outcome itself, by the stages that
the run went through, by what was found wrong with the site and by what was written.  These places
agree, whatever client and storage answer.

## Main definitions

* `Outcome.stages`: the stages of every run that ends in one way.
* `RefreshResult.Agrees`: a report whose places agree.

## Main results

* `refresh_agrees`: the report of every run agrees.
-/

namespace Matchday

/-- The stages of a run, by how it ends. -/
def Outcome.stages : Outcome → List Stage
  | fetchBelowThreshold => [.fetching, .done fetchBelowThreshold]
  | validationFailed => [.fetching, .normalizing, .validating, .done validationFailed]
  | success => [.fetching, .normalizing, .validating, .writing, .done success]
  | writeError => [.fetching, .normalizing, .validating, .writing, .done writeError]

/-- The stages of a run end with its outcome, and no outcome comes before. -/
theorem Outcome.stages_eq_concat (o : Outcome) :
    ∃ work, o.stages = work ++ [.done o] ∧ ∀ o', .done o' ∉ work := by
  cases o with
  | fetchBelowThreshold => exact ⟨[.fetching], rfl, by simp⟩
  | validationFailed => exact ⟨[.fetching, .normalizing, .validating], rfl, by simp⟩
  | success => exact ⟨[.fetching, .normalizing, .validating, .writing], rfl, by simp⟩
  | writeError => exact ⟨[.fetching, .normalizing, .validating, .writing], rfl, by simp⟩

namespace Plan

/-! ### Plans and outcomes -/

theorem of_eq_belowThreshold_iff {rules : RuleSet} {config : Config}
    {fetched : List FetchedCountry} :
    of rules config fetched = .belowThreshold ↔ FallsShort config fetched := by
  obtain ⟨hshort, hplan⟩ | ⟨hreached, site, -, ⟨-, hplan⟩ | ⟨-, hplan⟩⟩ :=
    of_cases rules config fetched <;> rw [hplan]
  · exact iff_of_true rfl hshort
  · exact iff_of_false nofun hreached
  · exact iff_of_false nofun hreached

/-- A site is rejected only with a violation. -/
theorem ne_nil_of_eq_reject {rules : RuleSet} {config : Config}
    {fetched : List FetchedCountry} {site : Site} {diagnostics : List Diagnostic}
    (h : of rules config fetched = .reject site diagnostics) : diagnostics ≠ [] := by
  obtain ⟨-, hplan⟩ | ⟨-, assembled, -, ⟨-, hplan⟩ | ⟨hreported, hplan⟩⟩ :=
    of_cases rules config fetched <;> rw [hplan] at h
  · contradiction
  · contradiction
  · obtain ⟨-, rfl⟩ := Plan.reject.inj h
    exact hreported

variable {plan : Plan} {written : Written}

theorem outcome_eq_fetchBelowThreshold_iff :
    plan.outcome written = .fetchBelowThreshold ↔ plan = .belowThreshold := by
  cases plan with
  | publish site => rw [outcome]; split <;> simp
  | _ => simp [outcome]

theorem outcome_eq_validationFailed_iff :
    plan.outcome written = .validationFailed ↔
      ∃ site diagnostics, plan = .reject site diagnostics := by
  cases plan with
  | publish site => rw [outcome]; split <;> simp
  | _ => simp [outcome]

theorem outcome_eq_writeError_iff :
    plan.outcome written = .writeError ↔
      (∃ site, plan = .publish site) ∧ written.failures ≠ [] := by
  cases plan with
  | publish site => rw [outcome, Ne, ← List.isEmpty_iff]; split <;> simp [*]
  | _ => simp [outcome]

theorem diagnostics_ne_nil_iff :
    plan.diagnostics ≠ [] ↔ ∃ site, ∃ ds ≠ [], plan = .reject site ds := by
  cases plan <;> simp [diagnostics]

/-- The stages of a run are those of its outcome. -/
theorem workStages_append : plan.workStages ++ [.done (plan.outcome written)] =
    (plan.outcome written).stages := by
  cases plan with
  | publish site => rw [workStages, outcome]; split <;> rfl
  | _ => rfl

end Plan

/-! ### Written files -/

namespace RefreshRun.IsFor

variable {rules : RuleSet} {config : Config} {r : RefreshRun}

theorem exists_publish (h : r.IsFor rules config) (hfailures : r.written.failures ≠ []) :
    ∃ site, r.plan = .publish site := by
  by_contra hplan
  rw [h.written_eq fun site hsite => hplan ⟨site, hsite⟩] at hfailures
  exact hfailures rfl

theorem written_eq_of_outcome (h : r.IsFor rules config)
    (houtcome : r.plan.outcome r.written = .fetchBelowThreshold ∨
      r.plan.outcome r.written = .validationFailed) : r.written = {} := by
  refine h.written_eq fun site hplan => ?_
  rw [Plan.outcome_eq_fetchBelowThreshold_iff, Plan.outcome_eq_validationFailed_iff,
    hplan] at houtcome
  obtain ⟨⟨⟩⟩ | ⟨_, _, ⟨⟩⟩ := houtcome

end RefreshRun.IsFor

/-! ### Reports -/

/-- A report whose places agree about the end of the run, where `minimum` is the share of leagues
that had to be fetched. -/
structure RefreshResult.Agrees (minimum : Float) (r : RefreshResult) : Prop where
  stages_eq : r.stages = r.outcome.stages
  done_mem_iff : ∀ o, .done o ∈ r.stages ↔ o = r.outcome
  done_last : ∃ work, r.stages = work ++ [.done r.outcome] ∧ ∀ o, .done o ∉ work
  belowThreshold_iff : r.outcome = .fetchBelowThreshold ↔
    r.usedSample = false ∧ r.successRate < minimum
  diagnostics_iff : r.diagnostics ≠ [] ↔ r.outcome = .validationFailed
  diagnosticCount_eq : r.diagnosticCount = r.diagnostics.length
  writeErrors_iff : r.writeErrors ≠ [] ↔ r.outcome = .writeError
  nothing_written : r.outcome = .fetchBelowThreshold ∨ r.outcome = .validationFailed →
    r.pagesWritten = 0 ∧ r.modelWritten = false

/-- **The report of every run agrees about its end**, whatever client and storage answer. -/
theorem refresh_agrees {σ : Type} (rules : RuleSet) (client : FixtureClient (StateM σ))
    (storage : Storage (StateM σ)) (config : Config) (s : σ) :
    ((refresh rules client storage config).run s).1.result.Agrees config.fetch.minSuccessRate := by
  have hfor := gives_refresh rules client storage config s
  generalize ((refresh rules client storage config).run s).1 = run at hfor
  rw [hfor.result_eq]
  obtain ⟨work, hstages, hwork⟩ := (run.plan.outcome run.written).stages_eq_concat
  have hlast : run.plan.workStages ++ [.done (run.plan.outcome run.written)] =
      work ++ [.done (run.plan.outcome run.written)] := Plan.workStages_append.trans hstages
  refine {
    stages_eq := Plan.workStages_append
    done_mem_iff := fun o => ?_
    done_last := ⟨work, hlast, hwork⟩
    belowThreshold_iff := ?_
    diagnostics_iff := ?_
    diagnosticCount_eq := rfl
    writeErrors_iff := ?_
    nothing_written := fun houtcome => ?_ }
  · rw [Plan.report, hlast, List.mem_append, or_iff_right (hwork o), List.mem_singleton,
      Stage.done.injEq]
  · refine Plan.outcome_eq_fetchBelowThreshold_iff.trans ?_
    rw [hfor.plan_eq]
    exact Plan.of_eq_belowThreshold_iff
  · rw [Plan.report, Ne, List.map_eq_nil_iff, ← Ne, Plan.diagnostics_ne_nil_iff,
      Plan.outcome_eq_validationFailed_iff]
    refine exists_congr fun site => exists_congr fun ds => and_iff_right_of_imp fun hplan => ?_
    exact Plan.ne_nil_of_eq_reject (hfor.plan_eq.symm.trans hplan)
  · exact Plan.outcome_eq_writeError_iff.trans
      (and_iff_right_of_imp hfor.exists_publish) |>.symm
  · rw [Plan.report, hfor.written_eq_of_outcome houtcome]
    exact ⟨rfl, rfl⟩

end Matchday
