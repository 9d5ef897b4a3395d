import Matchday.Proofs.Refresh.Ended

/-!
# What a run asks for

A client may note each request with the answer to it.  A run has one such exchange for each league
of the settings, in their order, and noting them does not change the run.

## Main definitions

* `Exchange`: a request and the answer to it.
* `FixtureClient.noting`: notes the exchanges with another client.
* `Config.requests`: the requests for all leagues of the settings.
* `RefreshRun.exchanges`: the exchanges of a run.

## Main results

* `run_refresh_exchanges`: the exchanges that are noted beside a run.
* `RefreshRun.IsFor.map_request_exchanges`: a run asks for each league of the settings once.
-/

namespace Matchday

/-- A request and the answer to it. -/
structure Exchange where
  request : FixtureRequest
  answer : FixtureAnswer
deriving Inhabited

namespace Exchange

/-- The played matches that came back. -/
def games (e : Exchange) : List Match :=
  match e.answer.result with
  | .ok fixtures => Fixture.playedMatches fixtures
  | .error _ => []

/-- An answer is usable when it is no error and has a played match. -/
def usable (e : Exchange) : Bool :=
  match e.answer.result with
  | .ok fixtures => !(Fixture.playedMatches fixtures).isEmpty
  | .error _ => false

end Exchange

/-- The requests for all leagues of the settings, country by country. -/
def Config.requests (config : Config) : List FixtureRequest :=
  config.fetch.countries.flatMap fun c => c.leagues.map (·.request config.fetch.season c)

/-- The request for a league and its answer. -/
def FetchedLeague.exchange (season : Int32) (country : CountrySetting) (l : FetchedLeague) :
    Exchange where
  request := l.setting.request season country
  answer := l.answer

/-- The requests for the leagues of a country and their answers, in order. -/
def FetchedCountry.exchanges (season : Int32) (c : FetchedCountry) : List Exchange :=
  c.leagues.map (FetchedLeague.exchange season c.setting)

/-- The exchanges of a run, in order. -/
def RefreshRun.exchanges (r : RefreshRun) : List Exchange :=
  r.fetched.flatMap (FetchedCountry.exchanges r.config.fetch.season)

/-! ### Noted exchanges -/

variable {m : Type → Type} [Monad m] {τ : Type}

/-- Notes the exchanges with a client, one after another. -/
def FixtureClient.noting (client : FixtureClient m) : FixtureClient (StateT (List Exchange) m) :=
  fun request => do
    let answer ← client request
    modify fun exchanges => exchanges ++ [{ request, answer }]
    return answer

/-- A storage next to whose answers a state is passed along. -/
def Storage.beside (storage : Storage m) : Storage (StateT τ m) where
  read path := liftM (storage.read path)
  write path content := liftM (storage.write path content)

section Noting

variable [LawfulMonad m] (client : FixtureClient m)

theorem Storage.tracks_beside (storage : Storage m) :
    Tracks (τ := τ) storage.beside storage fun t _ => t := by
  intro path content t
  simp [beside]

theorem run_fetchCountry_noting (season : Int32) (setting : CountrySetting)
    (log : List Exchange) : (fetchCountry client.noting season setting).run log =
      (fun c => (c, log ++ c.exchanges season)) <$> fetchCountry client season setting := by
  have hleague (l : LeagueSetting) (log : List Exchange) :
      (fetchLeague client.noting season setting l).run log =
        (fun l => (l, log ++ [l.exchange season setting])) <$>
          fetchLeague client season setting l := by
    simp [fetchLeague, FixtureClient.noting, FetchedLeague.exchange]
  simp only [fetchCountry, StateT.run_bind, run_mapM_of_run_append hleague, StateT.run_pure,
    bind_map_left, map_bind, map_pure, FetchedCountry.exchanges, List.map_eq_flatMap]

theorem run_fetchAll_noting (fetch : FetchSettings) (log : List Exchange) :
    (fetchAll client.noting fetch).run log =
      (fun cs => (cs, log ++ cs.flatMap (FetchedCountry.exchanges fetch.season))) <$>
        fetchAll client fetch :=
  run_mapM_of_run_append (run_fetchCountry_noting client fetch.season) fetch.countries log

end Noting

/-- **The exchanges that are noted beside a run are those of the run**, and noting them does not
change the run. -/
theorem run_refresh_exchanges [LawfulMonad m] (rules : RuleSet) (client : FixtureClient m)
    (storage : Storage m) (config : Config) (log : List Exchange) :
    (refresh rules client.noting storage.beside config).run log =
      (fun r => (r, log ++ r.exchanges)) <$> refresh rules client storage config := by
  simp only [refresh_eq_bind, conclude_eq, StateT.run_bind, run_fetchAll_noting, bind_map_left,
    storage.tracks_beside.run_carryOut, List.foldl_fixed, StateT.run_pure, map_bind, map_pure]
  rfl

/-! ### Requests -/

namespace FetchedCountry

theorem IsFor.map_request_exchanges {setting : CountrySetting} {c : FetchedCountry}
    (h : IsFor setting c) (season : Int32) :
    (c.exchanges season).map (·.request) = setting.leagues.map (·.request season setting) := by
  rw [← h.2, ← h.1, exchanges, List.map_map, List.map_map]
  rfl

theorem map_request_exchanges {settings : List CountrySetting} {cs : List FetchedCountry}
    (h : List.Forall₂ IsFor settings cs) (season : Int32) :
    (cs.flatMap (exchanges season)).map (·.request) =
      settings.flatMap fun c => c.leagues.map (·.request season c) := by
  induction h with
  | nil => rfl
  | cons hc _ ih =>
    rw [List.flatMap_cons, List.map_append, List.flatMap_cons, hc.map_request_exchanges, ih]

end FetchedCountry

/-- **A run asks for each league of the settings once**, in their order. -/
theorem RefreshRun.IsFor.map_request_exchanges {rules : RuleSet} {config : Config} {r : RefreshRun}
    (h : r.IsFor rules config) : r.exchanges.map (·.request) = config.requests := by
  rw [exchanges, h.config_eq]
  exact FetchedCountry.map_request_exchanges h.fetched config.fetch.season

end Matchday
