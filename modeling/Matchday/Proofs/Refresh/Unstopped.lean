import Matchday.Proofs.Refresh.Fallback

/-!
# Errors that stop nothing

A run that fetches all leagues puts its requests to the client as if they had been listed before the
first of them: an answer, whether it is an error or not, has no influence on what is asked for next.
Each error is reported under the league that was asked for, whatever becomes of the run afterwards.

## Main definitions

* `FixtureClient.askAll`: puts a list of requests to a client.
* `FetchedCountry.answers`: the answers that came back.

## Main results

* `map_answers_fetchAll`: fetching all leagues puts the listed requests to the client.
* `refresh_reports_errors`: every run asks for each league once and reports each error.
-/

namespace Matchday

variable {m : Type → Type} [Monad m]

/-- Puts requests to a client, one after another. -/
def FixtureClient.askAll (client : FixtureClient m) (requests : List FixtureRequest) :
    m (List FixtureAnswer) :=
  requests.mapM fun request => client request

/-- The answers that came back, in the order of the requests. -/
def FetchedCountry.answers (cs : List FetchedCountry) : List FixtureAnswer :=
  (allLeagues cs).map (·.answer)

theorem RefreshRun.map_answer_exchanges (r : RefreshRun) :
    r.exchanges.map (·.answer) = FetchedCountry.answers r.fetched := by
  have hcountry (c : FetchedCountry) :
      (c.exchanges r.config.fetch.season).map (·.answer) = c.leagues.map (·.answer) := by
    rw [FetchedCountry.exchanges, List.map_map]
    rfl
  rw [exchanges, List.map_flatMap, FetchedCountry.answers, FetchedCountry.allLeagues,
    List.map_flatMap]
  exact List.flatMap_congr fun c _ => hcountry c

/-! ### Requests one after another -/

section Requests

variable [LawfulMonad m] (client : FixtureClient m)

theorem map_answer_fetchCountry (season : Int32) (setting : CountrySetting) :
    (fun c => c.leagues.map (·.answer)) <$> fetchCountry client season setting =
      client.askAll (setting.leagues.map (·.request season setting)) := by
  have hleague (l : LeagueSetting) :
      (·.answer) <$> fetchLeague client season setting l = client (l.request season setting) := by
    simp [fetchLeague]
  calc (fun c => c.leagues.map (·.answer)) <$> fetchCountry client season setting
    _ = List.map (·.answer) <$> setting.leagues.mapM (fetchLeague client season setting) := by
      rw [fetchCountry, bind_pure_comp, Functor.map_map]
    _ = setting.leagues.mapM fun l => client (l.request season setting) := by
      simp only [map_mapM, hleague]
    _ = client.askAll (setting.leagues.map (·.request season setting)) := by
      rw [FixtureClient.askAll, List.mapM_map]
      rfl

/-- **Fetching all leagues puts the listed requests to the client**, one after another. -/
theorem map_answers_fetchAll (config : Config) :
    FetchedCountry.answers <$> fetchAll client config.fetch = client.askAll config.requests := by
  have hanswers : FetchedCountry.answers =
      List.flatten ∘ List.map fun c => c.leagues.map (·.answer) := by
    funext cs
    rw [FetchedCountry.answers, FetchedCountry.allLeagues, List.map_flatMap, List.flatMap_def]
    rfl
  calc FetchedCountry.answers <$> fetchAll client config.fetch
    _ = List.flatten <$> List.map (fun c => c.leagues.map (·.answer)) <$>
        fetchAll client config.fetch := by
      rw [hanswers, comp_map]
    _ = List.flatten <$> config.fetch.countries.mapM fun c =>
        client.askAll (c.leagues.map (·.request config.fetch.season c)) := by
      simp only [fetchAll, map_mapM, map_answer_fetchCountry]
    _ = client.askAll config.requests := (mapM_flatMap ..).symm

end Requests

/-- The requests name the leagues of the settings, each with the year of the season. -/
theorem Config.requests_eq_map_entries (config : Config) :
    config.requests = config.entries.map fun (country, league) =>
      { countryCode := country.code
        leagueId := league.id
        season := config.fetch.season.toInt.repr } := by
  rw [requests, entries, List.map_flatMap]
  refine List.flatMap_congr fun c _ => ?_
  rw [List.map_map]
  rfl

/-! ### Runs -/

/-- **Every run asks for each league of the settings once and reports each error.**  The requests
and their order come from the settings alone; the answers are those of a client to which nothing but
these requests is put; and the report lists the errors among them in this order, however the run
ends. -/
theorem refresh_reports_errors {σ : Type} (rules : RuleSet) (client : FixtureClient (StateM σ))
    (storage : Storage (StateM σ)) (config : Config) (s : σ) :
    let ended := (refresh rules client storage config).run s
    let noted := ((refresh rules client.noting storage.beside config).run []).run s
    let requests := config.entries.map fun (country, league) =>
      { countryCode := country.code
        leagueId := league.id
        season := config.fetch.season.toInt.repr }
    noted.1.1 = ended.1 ∧ noted.2 = ended.2 ∧
      noted.1.2.map (·.request) = requests ∧
      noted.1.2.map (·.answer) = ((client.askAll requests).run s).1 ∧
      ended.1.result.apiErrors = (config.entries.zip noted.1.2).filterMap fun (entry, e) =>
        match e.answer.result with
        | .ok _ => none
        | .error error => some (entry.1.name ++ "/" ++ entry.2.name ++ ": " ++ error.message) := by
  intro ended noted requests
  have hfor : ended.1.IsFor rules config := gives_refresh rules client storage config s
  have hrequests : requests = config.requests := config.requests_eq_map_entries.symm
  have hnoted : noted = ((ended.1, ended.1.exchanges), ended.2) := by
    simp only [noted, run_refresh_exchanges, StateT.run_map, List.nil_append]
    rfl
  rw [hnoted, hrequests]
  refine ⟨rfl, rfl, hfor.map_request_exchanges, ?_, hfor.apiErrors_eq⟩
  rw [RefreshRun.map_answer_exchanges, fetched_refresh, ← map_answers_fetchAll, StateT.run_map]
  rfl

end Matchday
