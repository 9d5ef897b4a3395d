import Matchday.Proofs.Refresh.Fetched
import Matchday.Proofs.Refresh.Recorded

/-!
# Runs that have ended

The end of a run tells what became of the fetched leagues, and this tells which files the run has
handed to its storage: those of one site without violations, or none.

## Main definitions

* `RefreshRun.IsFor`: a run with given rules and settings.
* `RefreshRun.site?`: the site that a run has assembled.
* `RefreshRun.files`: the files that a run hands to its storage.
* `FixtureClient.beside`: a client next to whose answers the state of a storage is passed along.

## Main results

* `gives_refresh`: what holds of every run that has ended.
* `fetched_refresh`: what a run has fetched.
* `RefreshRun.IsFor.of_publish`: what a run has published.
* `Storage.Tracks.run_refresh`: a run changes the state of a storage by its files and by nothing
  else.
-/

namespace Matchday

theorem Plan.of_eq_publish_iff {rules : RuleSet} {config : Config} {fetched : List FetchedCountry}
    {site : Site} : Plan.of rules config fetched = .publish site ↔
      (usesSample config fetched ∨ ¬ successRate config fetched < config.fetch.minSuccessRate) ∧
        assembledSite config fetched = site ∧ rules.evaluate site = [] := by
  rw [← not_fallsShort_iff]
  obtain ⟨hshort, hplan⟩ | ⟨hreached, assembled, rfl, ⟨hsilent, hplan⟩ | ⟨hreported, hplan⟩⟩ :=
    of_cases rules config fetched
  · simp [hplan, hshort]
  · rw [hplan, Plan.publish.injEq]
    exact ⟨fun h => ⟨hreached, h, h ▸ hsilent⟩, fun h => h.2.1⟩
  · rw [hplan]
    refine iff_of_false nofun ?_
    rintro ⟨-, rfl, hsilent⟩
    exact hreported hsilent

namespace RefreshRun

/-- A run with given rules and settings: it has fetched the leagues of the settings, carried out its
plan and recorded what came of it. -/
structure IsFor (rules : RuleSet) (config : Config) (r : RefreshRun) : Prop where
  config_eq : r.config = config
  fetched : List.Forall₂ FetchedCountry.IsFor config.fetch.countries r.fetched
  plan_eq : r.plan = Plan.of rules config r.fetched
  /-- Files are written only when a site is published. -/
  written_eq : (∀ site, r.plan ≠ .publish site) → r.written = {}
  result_eq : r.result = r.plan.report config r.fetched r.written

/-- The files that a run hands to its storage, in order. -/
def files (r : RefreshRun) : List (String × ByteArray) :=
  r.plan.files r.config.output

/-- The site that a run has assembled, if it came to that. -/
def site? (r : RefreshRun) : Option Site :=
  r.plan.site?

variable {r : RefreshRun} {rules : RuleSet} {config : Config}

theorem IsFor.usedSample_eq (h : r.IsFor rules config) :
    r.result.usedSample = usesSample config r.fetched :=
  congrArg RefreshResult.usedSample h.result_eq

theorem IsFor.assembledSite_eq {site : Site} (h : r.IsFor rules config)
    (hsite : r.site? = some site) :
    assembledSite config r.fetched = site := by
  rw [site?, h.plan_eq] at hsite
  obtain ⟨-, hplan⟩ | ⟨-, assembled, rfl, ⟨-, hplan⟩ | ⟨-, hplan⟩⟩ :=
    Plan.of_cases rules config r.fetched <;> rw [hplan] at hsite
  · contradiction
  · exact Option.some.inj hsite
  · exact Option.some.inj hsite

/-- The site of a run that does not use the built-in one is made of what was fetched. -/
theorem IsFor.site_eq {site : Site} (h : r.IsFor rules config)
    (hsample : r.result.usedSample = false) (hsite : r.site? = some site) :
    FetchedCountry.site config r.fetched = site := by
  rw [h.usedSample_eq] at hsample
  rw [← h.assembledSite_eq hsite, assembledSite, hsample, if_neg Bool.false_ne_true]

/-- A published site is what was assembled, without violations, and all that is handed to the
storage. -/
theorem IsFor.of_publish {site : Site} (h : r.IsFor rules config)
    (hplan : r.plan = .publish site) :
    assembledSite config r.fetched = site ∧ rules.evaluate site = [] ∧
      r.files = site.files config.output := by
  have hpublish : Plan.of rules config r.fetched = .publish site := h.plan_eq.symm.trans hplan
  obtain ⟨-, hsite, hevaluate⟩ := Plan.of_eq_publish_iff.1 hpublish
  refine ⟨hsite, hevaluate, ?_⟩
  rw [files, hplan, h.config_eq, Plan.files]

theorem IsFor.writing_mem_stages_iff (h : r.IsFor rules config) :
    .writing ∈ r.result.stages ↔ ∃ site, r.plan = .publish site := by
  rw [h.result_eq, Plan.report]
  cases r.plan <;> simp [Plan.workStages]

theorem IsFor.outcome_written_iff (h : r.IsFor rules config) :
    r.result.outcome = .success ∨ r.result.outcome = .writeError ↔
      ∃ site, r.plan = .publish site := by
  rw [h.result_eq, Plan.report]
  cases r.plan with
  | publish site => dsimp only [Plan.outcome]; split <;> simp
  | _ => simp [Plan.outcome]

/-- A run that ends before anything is written hands nothing to its storage. -/
theorem IsFor.files_eq_nil_of_outcome (h : r.IsFor rules config)
    (houtcome : r.result.outcome = .fetchBelowThreshold ∨ r.result.outcome = .validationFailed) :
    r.files = [] := by
  rw [files]
  cases hplan : r.plan with
  | publish site =>
    rcases h.outcome_written_iff.2 ⟨site, hplan⟩ with hended | hended <;> simp [hended] at houtcome
  | belowThreshold => rfl
  | reject site diagnostics => rfl

end RefreshRun

/-- Whatever the storage answers, a plan is carried out and its report is recorded. -/
theorem gives_conclude_ended {σ : Type} (rules : RuleSet) (storage : Storage (StateM σ))
    (config : Config) (fetched : List FetchedCountry) :
    Gives (fun r => r = .ended config fetched (Plan.of rules config fetched) r.written)
      (conclude rules storage config fetched) := by
  rw [conclude_eq]
  exact (Gives.trivial _).bind fun _ _ => Gives.pure rfl

/-- Nothing is written unless a site is published. -/
theorem Plan.gives_carryOut {σ : Type} (storage : Storage (StateM σ)) (output : OutputSettings)
    (plan : Plan) :
    Gives (fun written => (∀ site, plan ≠ .publish site) → written = {})
      (plan.carryOut storage output) := by
  cases plan with
  | publish site => exact fun _ hplan => absurd rfl (hplan site)
  | belowThreshold => exact Gives.pure fun _ => rfl
  | reject site diagnostics => exact Gives.pure fun _ => rfl

/-- **A run that has ended is one with the given rules and settings**, whatever client and storage
answer. -/
theorem gives_refresh {σ : Type} (rules : RuleSet) (client : FixtureClient (StateM σ))
    (storage : Storage (StateM σ)) (config : Config) :
    Gives (RefreshRun.IsFor rules config) (refresh rules client storage config) := by
  rw [refresh_eq_bind]
  refine (gives_fetchAll client config.fetch).bind fun fetched hfetched => ?_
  rw [conclude_eq]
  exact ((Plan.of rules config fetched).gives_carryOut storage config.output).bind
    fun written hwritten => Gives.pure ⟨rfl, hfetched, rfl, hwritten, rfl⟩

/-- Nothing is fetched after the fetching. -/
theorem fetched_refresh {σ : Type} (rules : RuleSet) (client : FixtureClient (StateM σ))
    (storage : Storage (StateM σ)) (config : Config) (s : σ) :
    ((refresh rules client storage config).run s).1.fetched =
      ((fetchAll client config.fetch).run s).1 :=
  congrArg RefreshRun.fetched (gives_conclude_ended rules storage config _ _)

/-! ### The state of a storage -/

variable {m : Type → Type} [Monad m] {τ : Type}

/-- A client next to whose answers a state is passed along. -/
def FixtureClient.beside (client : FixtureClient m) : FixtureClient (StateT τ m) :=
  fun request => liftM (client request)

section Beside

variable [LawfulMonad m] (client : FixtureClient m)

theorem run_fetchCountry_beside (season : Int32) (setting : CountrySetting) (t : τ) :
    (fetchCountry client.beside season setting).run t =
      (fun c => (c, t)) <$> fetchCountry client season setting := by
  have hleague (l : LeagueSetting) (t : τ) : (fetchLeague client.beside season setting l).run t =
      (fun l => (l, t)) <$> fetchLeague client season setting l := by
    simp [fetchLeague, FixtureClient.beside]
  simp only [fetchCountry, StateT.run_bind, run_mapM_of_run_self hleague, StateT.run_pure,
    bind_map_left, map_bind, map_pure]

theorem run_fetchAll_beside (fetch : FetchSettings) (t : τ) :
    (fetchAll client.beside fetch).run t = (fun cs => (cs, t)) <$> fetchAll client fetch :=
  run_mapM_of_run_self (run_fetchCountry_beside client fetch.season) fetch.countries t

/-- Carrying out a plan changes the state of a storage by the files of the plan. -/
theorem Storage.Tracks.run_carryOut {storage : Storage (StateT τ m)} {base : Storage m}
    {note : τ → String × ByteArray → τ} (h : storage.Tracks base note) (output : OutputSettings)
    (plan : Plan) (t : τ) : (plan.carryOut storage output).run t =
      (fun written => (written, (plan.files output).foldl note t)) <$>
        plan.carryOut base output := by
  cases plan with
  | publish site => exact h.run_publishSite output site t
  | belowThreshold =>
    simp only [Plan.carryOut, Plan.files, StateT.run_pure, map_pure, List.foldl_nil]
  | reject site diagnostics =>
    simp only [Plan.carryOut, Plan.files, StateT.run_pure, map_pure, List.foldl_nil]

/-- **A run changes the state of a storage by the files of the run, one after another.** -/
theorem Storage.Tracks.run_refresh {storage : Storage (StateT τ m)} {base : Storage m}
    {note : τ → String × ByteArray → τ} (h : storage.Tracks base note) (rules : RuleSet)
    (config : Config) (t : τ) : (refresh rules client.beside storage config).run t =
      (fun r => (r, r.files.foldl note t)) <$> refresh rules client base config := by
  simp only [refresh_eq_bind, conclude_eq, StateT.run_bind, run_fetchAll_beside, bind_map_left,
    h.run_carryOut, StateT.run_pure, map_bind, map_pure]
  rfl

end Beside

section Recorded

variable {σ : Type} (rules : RuleSet) (client : FixtureClient (StateM σ)) (config : Config)

/-- What a storage is handed in a run are the files of the run, and noting them does not change
the run. -/
theorem run_refresh_noting (storage : Storage (StateM σ)) (s : σ) :
    ((refresh rules client.beside storage.noting config).run []).run s =
      (let ended := (refresh rules client storage config).run s
       ((ended.1, ended.1.files), ended.2)) := by
  have hnote (xs ys : List (String × ByteArray)) :
      xs.foldl (fun files file => files ++ [file]) ys = ys ++ xs := by
    induction xs generalizing ys with
    | nil => simp
    | cons x xs ih => simp [ih]
  rw [(Storage.tracks_noting storage).run_refresh, StateT.run_map]
  simp only [hnote, List.nil_append]
  rfl

/-- What a memory that refuses some paths holds after a run. -/
theorem run_refresh_refusing (refuses : String → Bool) (memory : Memory) (s : σ) :
    ((refresh rules client.beside (Memory.storage.refusing refuses) config).run memory).run s =
      (let ended := (refresh rules client (Storage.answering refuses) config).run s
       ((ended.1, memory.store refuses ended.1.files), ended.2)) := by
  rw [(Storage.tracks_refusing refuses).run_refresh, StateT.run_map]
  rfl

end Recorded

end Matchday
