import Mathlib.Data.List.SplitLengths
import Matchday.Proofs.Refresh.Asked

/-!
# What a run accounts for

The numbers of a report count the exchanges of the run: those that were usable, the countries that
have a usable one, the errors and the played matches.

## Main definitions

* `RefreshResult.Accounts`: a report whose numbers count the exchanges of a run.

## Main results

* `refresh_accounts`: the report of every run counts its exchanges.
-/

namespace Matchday

/-- The exchanges of each country. -/
def Exchange.byCountry (countries : List CountrySetting) (exchanges : List Exchange) :
    List (List Exchange) :=
  (countries.map (·.leagues.length)).splitLengths exchanges

/-- A report whose numbers count the exchanges of a run that has asked for the leagues of some
countries, one exchange for each league. -/
structure RefreshResult.Accounts (countries : List CountrySetting) (exchanges : List Exchange)
    (r : RefreshResult) : Prop where
  countriesRequested_eq : r.countriesRequested = countries.length
  leaguesRequested_eq : r.leaguesRequested = (countries.map (·.leagues.length)).sum
  leaguesSucceeded_eq : r.leaguesSucceeded = exchanges.countP Exchange.usable
  countriesSucceeded_eq : r.countriesSucceeded =
    (Exchange.byCountry countries exchanges).countP (·.any Exchange.usable)
  countriesSucceeded_le_requested : r.countriesSucceeded ≤ r.countriesRequested
  countriesSucceeded_le_leagues : r.countriesSucceeded ≤ r.leaguesSucceeded
  countriesFailed_add : r.countriesFailed + r.countriesSucceeded = r.countriesRequested
  leaguesSucceeded_add_le : r.leaguesSucceeded + r.apiErrors.length ≤ r.leaguesRequested
  totalMatches_eq : r.usedSample = false →
    r.totalMatches = (exchanges.map (·.games.length)).sum

/-! ### Leagues and countries -/

theorem FetchedLeague.usable_exchange (season : Int32) (country : CountrySetting)
    (l : FetchedLeague) : (l.exchange season country).usable = l.succeeded := by
  rw [Exchange.usable, exchange, succeeded, games]
  cases l.answer.result <;> rfl

namespace FetchedCountry

variable {settings : List CountrySetting} {cs : List FetchedCountry}

theorem IsFor.length_leagues {setting : CountrySetting} {c : FetchedCountry}
    (h : IsFor setting c) : c.leagues.length = setting.leagues.length := by
  rw [← h.2, List.length_map]

theorem any_usable_exchanges (season : Int32) (c : FetchedCountry) :
    (c.exchanges season).any Exchange.usable = c.succeeded := by
  rw [exchanges, List.any_map, succeeded]
  exact congrArg _ (funext fun l => l.usable_exchange season c.setting)

theorem countP_usable_exchanges (season : Int32) (c : FetchedCountry) :
    (c.exchanges season).countP Exchange.usable = c.leagues.countP FetchedLeague.succeeded := by
  rw [exchanges, List.countP_map]
  exact congrArg (List.countP · _) (funext fun l => l.usable_exchange season c.setting)

/-- In a country no league both succeeds and has an error. -/
theorem countP_succeeded_add_length_errors_le (c : FetchedCountry) :
    c.leagues.countP FetchedLeague.succeeded + c.errors.length ≤ c.leagues.length := by
  rw [errors, List.length_filterMap_eq_countP,
    List.length_eq_countP_add_countP FetchedLeague.succeeded]
  refine Nat.add_le_add_left (List.countP_mono_left fun l _ herror => ?_) _
  refine decide_eq_true fun hsucceeded => ?_
  rw [FetchedLeague.error?_eq_none_of_succeeded hsucceeded] at herror
  exact Bool.false_ne_true herror

theorem leaguesSucceeded_cons (c : FetchedCountry) (cs : List FetchedCountry) :
    leaguesSucceeded (c :: cs) =
      c.leagues.countP FetchedLeague.succeeded + leaguesSucceeded cs := by
  rw [leaguesSucceeded, allLeagues, List.flatMap_cons, List.countP_append]
  rfl

/-! ### Counts of exchanges -/

theorem byCountry_exchanges (h : List.Forall₂ IsFor settings cs) (season : Int32) :
    Exchange.byCountry settings (cs.flatMap (exchanges season)) = cs.map (exchanges season) := by
  induction h with
  | nil => rfl
  | @cons setting c _ _ hc _ ih =>
    have hlength : (c.exchanges season).length = setting.leagues.length := by
      rw [exchanges, List.length_map, hc.length_leagues]
    rw [Exchange.byCountry] at ih
    rw [Exchange.byCountry, List.map_cons, List.splitLengths_cons, List.flatMap_cons,
      List.take_left' hlength, List.drop_left' hlength, ih, List.map_cons]

theorem leaguesSucceeded_eq_countP (season : Int32) :
    leaguesSucceeded cs = (cs.flatMap (exchanges season)).countP Exchange.usable := by
  rw [leaguesSucceeded, allLeagues, List.countP_flatMap, List.countP_flatMap]
  exact congrArg _ (List.map_congr_left fun c _ => (c.countP_usable_exchanges season).symm)

theorem countriesSucceeded_eq_countP (h : List.Forall₂ IsFor settings cs) (season : Int32) :
    countriesSucceeded cs =
      (Exchange.byCountry settings (cs.flatMap (exchanges season))).countP
        (·.any Exchange.usable) := by
  rw [byCountry_exchanges h, List.countP_map, countriesSucceeded]
  exact congrArg (List.countP · _) (funext fun c => (c.any_usable_exchanges season).symm)

theorem totalMatches_eq_sum (season : Int32) :
    totalMatches cs = ((cs.flatMap (exchanges season)).map (·.games.length)).sum := by
  rw [totalMatches, List.length_flatMap, allLeagues, List.map_flatMap, List.map_flatMap]
  simp only [exchanges, List.map_map]
  rfl

theorem totalMatches_site {config : Config} : (site config cs).totalMatches = totalMatches cs := by
  rw [Site.totalMatches, leagues_site, List.flatMap_map, totalMatches]
  rfl

/-! ### Bounds -/

theorem countriesSucceeded_le_length (h : List.Forall₂ IsFor settings cs) :
    countriesSucceeded cs ≤ settings.length :=
  h.length_eq ▸ List.countP_le_length

theorem countriesSucceeded_le_leaguesSucceeded : countriesSucceeded cs ≤ leaguesSucceeded cs := by
  induction cs with
  | nil => exact Nat.le_refl 0
  | cons c cs ih =>
    rw [leaguesSucceeded_cons, countriesSucceeded, List.countP_cons, Nat.add_comm]
    refine Nat.add_le_add ?_ ih
    split
    next hsucceeded => exact List.countP_pos_iff.2 (List.any_eq_true.1 hsucceeded)
    next => exact Nat.zero_le _

theorem leaguesSucceeded_add_length_allErrors_le (h : List.Forall₂ IsFor settings cs) :
    leaguesSucceeded cs + (allErrors cs).length ≤ (settings.map (·.leagues.length)).sum := by
  induction h with
  | nil => exact Nat.le_refl 0
  | @cons setting c settings cs hc _ ih =>
    have hcountry := c.countP_succeeded_add_length_errors_le
    rw [hc.length_leagues] at hcountry
    rw [allErrors] at ih
    rw [leaguesSucceeded_cons, allErrors, List.flatMap_cons, List.length_append, List.map_cons,
      List.sum_cons]
    omega

end FetchedCountry

/-! ### Runs -/

namespace RefreshRun

variable {r : RefreshRun} {rules : RuleSet} {config : Config}

/-- The matches of a run that does not use the built-in site are those of its exchanges, also when
it has come to no site. -/
theorem IsFor.totalMatches_eq (h : r.IsFor rules config)
    (hsample : r.result.usedSample = false) :
    r.result.totalMatches = (r.exchanges.map (·.games.length)).sum := by
  have htotal : r.result.totalMatches =
      r.site?.elim (FetchedCountry.totalMatches r.fetched) Site.totalMatches :=
    congrArg RefreshResult.totalMatches h.result_eq
  rw [exchanges, ← FetchedCountry.totalMatches_eq_sum, htotal]
  cases hsite : r.site? with
  | none => rfl
  | some site =>
    rw [Option.elim_some, ← h.site_eq hsample hsite, FetchedCountry.totalMatches_site]

/-- The report of a run counts the exchanges of the run. -/
theorem IsFor.accounts (h : r.IsFor rules config) :
    r.result.Accounts config.fetch.countries r.exchanges := by
  have hcountries := FetchedCountry.countriesSucceeded_le_length h.fetched
  have hleagues : config.leaguesRequested =
      (config.fetch.countries.map (·.leagues.length)).sum := by
    rw [Config.leaguesRequested, List.length_flatMap]
  have htotal := h.totalMatches_eq
  rw [h.result_eq] at htotal ⊢
  exact {
    countriesRequested_eq := rfl
    leaguesRequested_eq := hleagues
    leaguesSucceeded_eq := FetchedCountry.leaguesSucceeded_eq_countP r.config.fetch.season
    countriesSucceeded_eq :=
      FetchedCountry.countriesSucceeded_eq_countP h.fetched r.config.fetch.season
    countriesSucceeded_le_requested := hcountries
    countriesSucceeded_le_leagues := FetchedCountry.countriesSucceeded_le_leaguesSucceeded
    countriesFailed_add := Nat.sub_add_cancel hcountries
    leaguesSucceeded_add_le :=
      (FetchedCountry.leaguesSucceeded_add_length_allErrors_le h.fetched).trans_eq hleagues.symm
    totalMatches_eq := htotal }

end RefreshRun

/-- **The report of every run counts the exchanges of the run**, whatever the client answers.  The
exchanges are noted beside the run, and there is one for each league of the settings. -/
theorem refresh_accounts {σ : Type} (rules : RuleSet) (client : FixtureClient (StateM σ))
    (storage : Storage (StateM σ)) (config : Config) (s : σ) :
    let ended := (refresh rules client storage config).run s
    let noted := ((refresh rules client.noting storage.beside config).run []).run s
    noted.1.1 = ended.1 ∧ noted.2 = ended.2 ∧
      noted.1.2.map (·.request) = config.requests ∧
      ended.1.result.Accounts config.fetch.countries noted.1.2 := by
  intro ended noted
  have hfor : ended.1.IsFor rules config := gives_refresh rules client storage config s
  have hnoted : noted = ((ended.1, ended.1.exchanges), ended.2) := by
    simp only [noted, run_refresh_exchanges, StateT.run_map, List.nil_append]
    rfl
  rw [hnoted]
  exact ⟨rfl, rfl, hfor.map_request_exchanges, hfor.accounts⟩

end Matchday
