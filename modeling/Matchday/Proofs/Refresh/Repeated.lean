import Matchday.Proofs.Refresh.Separate

/-!
# Runs repeated

A run with a client whose answers stay the same can be repeated.  Every repetition fetches the same
leagues, hands the same files to the storage and reports the same, and a memory that has stored
these files once does not change when they are stored again, also when some of them share a path or
are refused.

## Main definitions

* `refreshTimes`: runs with the same settings, one after another.

## Main results

* `exists_run_refresh_refusing`: a run with fixed answers depends neither on the memory nor on the
  state of the client.
* `refresh_repeats`: repeated runs report and leave what one run reports and leaves.
-/

namespace Matchday

variable {m : Type → Type} [Monad m] {σ : Type}

/-- Runs with the same settings, one after another. -/
def refreshTimes (n : Nat) (rules : RuleSet) (client : FixtureClient m) (storage : Storage m)
    (config : Config) : m (List RefreshRun) :=
  (List.replicate n config).mapM (refresh rules client storage)

/-! ### Fixed answers -/

section Fixed

variable {client : FixtureClient (StateM σ)} {answers : FixtureRequest → FixtureAnswer}

/-- What is fetched from a client with fixed answers, whatever its state is. -/
theorem gives_fetchAll_of_fixed (hfixed : ∀ request, Gives (· = answers request) (client request))
    (fetch : FetchSettings) : Gives (· = fetch.fetched answers) (fetchAll client fetch) := by
  have hleague (c : CountrySetting) (l : LeagueSetting) :
      Gives (· = l.fetched answers fetch.season c) (fetchLeague client fetch.season c l) :=
    (hfixed _).bind fun _ hanswer => .pure (by rw [hanswer, LeagueSetting.fetched])
  have hcountry (c : CountrySetting) :
      Gives (· = c.fetched answers fetch.season) (fetchCountry client fetch.season c) :=
    (Gives.mapM_eq (hleague c) c.leagues).bind fun _ hleagues =>
      .pure (by rw [hleagues, CountrySetting.fetched])
  exact Gives.mapM_eq hcountry fetch.countries

end Fixed

section Answering

variable [LawfulMonad m] (refuses : String → Bool)

/-- What becomes of the files of a site is settled when it depends on their paths alone. -/
theorem exists_publishSite_answering (output : OutputSettings) (site : Site) :
    ∃ written, publishSite (m := m) (.answering refuses) output site = pure written := by
  have hpage (page : Page) : ∃ attempt,
      writePage (m := m) (.answering refuses) output.siteDir page = pure attempt := by
    simp only [writePage, Storage.answering, pure_bind]
    exact ⟨_, rfl⟩
  choose attempt hattempt using hpage
  rw [publishSite, writePages, funext hattempt, List.mapM_pure, pure_bind]
  cases output.modelFile with
  | none => exact ⟨_, rfl⟩
  | some path =>
    simp only [writeModel, Storage.answering, pure_bind]
    exact ⟨_, rfl⟩

theorem exists_conclude_answering (rules : RuleSet) (config : Config)
    (fetched : List FetchedCountry) :
    ∃ run, conclude (m := m) rules (.answering refuses) config fetched = pure run := by
  obtain ⟨written, hwritten⟩ : ∃ written,
      (Plan.of rules config fetched).carryOut (m := m) (.answering refuses) config.output =
        pure written := by
    cases Plan.of rules config fetched with
    | publish site => exact exists_publishSite_answering refuses config.output site
    | belowThreshold => exact ⟨_, rfl⟩
    | reject site diagnostics => exact ⟨_, rfl⟩
  rw [conclude_eq, hwritten, pure_bind]
  exact ⟨_, rfl⟩

end Answering

/-! ### Runs -/

section Runs

variable {client : FixtureClient (StateM σ)} {answers : FixtureRequest → FixtureAnswer}

/-- **A run with fixed answers depends neither on the memory nor on the state of the client**, and
the memory stores its files. -/
theorem exists_run_refresh_refusing
    (hfixed : ∀ request, Gives (· = answers request) (client request)) (rules : RuleSet)
    (refuses : String → Bool) (config : Config) :
    ∃ run : RefreshRun, ∀ memory s,
      (((refresh rules client.beside (Memory.storage.refusing refuses) config).run memory).run
        s).1 = (run, memory.store refuses run.files) := by
  obtain ⟨run, hrun⟩ := exists_conclude_answering (m := StateM σ) refuses rules config
    (config.fetch.fetched answers)
  have hended : Gives (· = run) (refresh rules client (.answering refuses) config) :=
    (gives_fetchAll_of_fixed hfixed config.fetch).bind fun fetched hfetched => by
      change Gives (· = run) (conclude rules (.answering refuses) config fetched)
      rw [hfetched, hrun]
      exact .pure rfl
  refine ⟨run, fun memory s => ?_⟩
  rw [run_refresh_refusing]
  dsimp only
  rw [hended s]

/-- **Repeated runs report and leave what one run reports and leaves**, whichever paths are refused
and whatever the memory held before, if the answers of the client stay the same. -/
theorem refresh_repeats (hfixed : ∀ request, Gives (· = answers request) (client request))
    (rules : RuleSet) (refuses : String → Bool) (config : Config) (memory : Memory) (s : σ)
    (n : Nat) :
    let storage := (Memory.storage (m := StateM σ)).refusing refuses
    let once := ((refresh rules client.beside storage config).run memory).run s
    let repeated := ((refreshTimes (n + 1) rules client.beside storage config).run memory).run s
    repeated.1.1 = List.replicate (n + 1) once.1.1 ∧
      repeated.1.1.map (·.result) = List.replicate (n + 1) once.1.1.result ∧
      repeated.1.2 = once.1.2 := by
  intro storage once repeated
  obtain ⟨run, hrun⟩ := exists_run_refresh_refusing hfixed rules refuses config
  have honce : once.1 = (run, memory.store refuses run.files) := hrun memory s
  have hrepeated : repeated.1 = (List.replicate (n + 1) run, memory.store refuses run.files) :=
    run_mapM_replicate hrun (fun memory => memory.store_store run.files) n memory s
  rw [honce, hrepeated, List.map_replicate]
  exact ⟨rfl, rfl, rfl⟩

end Runs

/-! ### Pages and model text at one path -/

/-- Settings with two leagues whose pages share a path, to which the model text goes too. -/
def Config.sharedPath : Config where
  site := Config.oneLeague.site
  api := Config.oneLeague.api
  fetch := {
    season := 2025
    countries := [{
      name := "Spain"
      code := "ES"
      leagues := [{ name := "LaLiga", id := "140" }, { name := "La-Liga", id := "141" }] }] }
  output := { path := "out", modelFile := some "site/spain/la-liga/index.json" }

/-- A client with fixed answers that counts the requests. -/
def FixtureClient.counting : FixtureClient (StateM Nat) := fun request => do
  modify (· + 1)
  return request.answerWith 3

/-- A run with a memory that refuses the index page. -/
def sharedPathRun : (RefreshRun × Memory) × Nat :=
  ((refresh .standard FixtureClient.counting.beside
    (Memory.storage.refusing (· == "site/index.json")) .sharedPath).run oldMemory).run 0

/-- Three of these runs. -/
def sharedPathRuns : (List RefreshRun × Memory) × Nat :=
  ((refreshTimes 3 .standard FixtureClient.counting.beside
    (Memory.storage.refusing (· == "site/index.json")) .sharedPath).run oldMemory).run 0

/-- Three runs ask three times, but report and leave what one of them reports and leaves. -/
theorem sharedPath_refresh_repeats :
    (∀ request, Gives (· = request.answerWith 3) (FixtureClient.counting request)) ∧
      sharedPathRun.2 = 2 ∧ sharedPathRuns.2 = 6 ∧
      sharedPathRun.1.1.result.outcome = .writeError ∧
      sharedPathRun.1.1.result.pagesWritten = 3 ∧
      sharedPathRun.1.2.keys =
        ["old.json", "site/spain/index.json", "site/spain/la-liga/index.json"] ∧
      sharedPathRuns.1.1.map (·.result) = List.replicate 3 sharedPathRun.1.1.result ∧
      sharedPathRuns.1.2 = sharedPathRun.1.2 := by
  have hfixed (request : FixtureRequest) :
      Gives (· = request.answerWith 3) (FixtureClient.counting request) := fun _ => rfl
  obtain ⟨-, hresults, hmemory⟩ := refresh_repeats hfixed .standard (· == "site/index.json")
    .sharedPath oldMemory 0 2
  exact ⟨hfixed, by decide +kernel, by decide +kernel, by decide +kernel, by decide +kernel,
    by decide +kernel, hresults, hmemory⟩

end Matchday
