import Matchday.Proofs.Effect
import Matchday.Proofs.Rule.Meaning
import Matchday.Refresh.Fetch

/-!
# What is fetched

Whatever a client answers, the fetched countries and leagues are those of the settings, in the same
order.  A site made of them passes the rule that no league is without matches only when every league
succeeded, and then there are no errors.

## Main definitions

* `FetchedCountry.IsFor`: a fetched country that belongs to a country of the settings.

## Main results

* `gives_fetchAll`: the fetched countries belong to those of the settings.
* `FetchedCountry.leaguesSucceeded_eq_of_hasMatches`: no league failed when the site has no league
  without matches.
-/

namespace Matchday

variable {σ : Type}

namespace FetchedCountry

/-- A fetched country that belongs to a country of the settings, with all its leagues. -/
def IsFor (setting : CountrySetting) (c : FetchedCountry) : Prop :=
  c.setting = setting ∧ c.leagues.map (·.setting) = setting.leagues

theorem map_setting_allLeagues {settings : List CountrySetting} {cs : List FetchedCountry}
    (h : List.Forall₂ IsFor settings cs) :
    (allLeagues cs).map (·.setting) = settings.flatMap (·.leagues) := by
  induction h with
  | nil => rfl
  | cons hc hcs ih =>
    rw [allLeagues] at ih
    rw [allLeagues, List.flatMap_cons, List.map_append, List.flatMap_cons, hc.2, ih]

end FetchedCountry

section Fetch

variable (client : FixtureClient (StateM σ))

theorem gives_fetchLeague (season : Int32) (country : CountrySetting) (setting : LeagueSetting) :
    Gives (fun l => l.setting = setting) (fetchLeague client season country setting) :=
  (Gives.trivial _).bind fun _ _ => Gives.pure rfl

theorem gives_fetchCountry (season : Int32) (setting : CountrySetting) :
    Gives (FetchedCountry.IsFor setting) (fetchCountry client season setting) := by
  refine (Gives.mapM (gives_fetchLeague client season setting) setting.leagues).bind ?_
  intro leagues hleagues
  have hmap : List.Forall₂ (· = ·) (leagues.map (·.setting)) setting.leagues :=
    List.forall₂_map_left_iff.2 hleagues.flip
  rw [List.forall₂_eq_eq_eq] at hmap
  exact Gives.pure ⟨rfl, hmap⟩

/-- **The fetched countries belong to those of the settings, one by one.** -/
theorem gives_fetchAll (fetch : FetchSettings) :
    Gives (List.Forall₂ FetchedCountry.IsFor fetch.countries) (fetchAll client fetch) :=
  Gives.mapM (gives_fetchCountry client fetch.season) fetch.countries

end Fetch

/-! ### Leagues without matches -/

theorem FetchedLeague.error?_eq_none_of_succeeded {l : FetchedLeague} (h : l.succeeded)
    (country : CountrySetting) : l.error? country = none := by
  cases hresult : l.answer.result with
  | ok fixtures => rw [error?, hresult]
  | error e => simp [succeeded, games, hresult] at h

namespace FetchedCountry

variable {rules : RuleSet} {config : Config} {cs : List FetchedCountry}

theorem leagues_site : (site config cs).leagues =
    (allLeagues cs).map (FetchedLeague.league config.seasonLabel) := by
  rw [site, Site.leagues, Site.ofCountries_countries, List.flatMap_map, allLeagues,
    List.map_flatMap]
  rfl

/-- Every league succeeded when the site of what was fetched has no league without matches. -/
theorem forall_succeeded_of_hasMatches (hrule : LeagueRule.hasMatches.asRule ∈ rules.league)
    (h : rules.evaluate (site config cs) = []) : ∀ l ∈ allLeagues cs, l.succeeded := by
  intro l hl
  have hmem : l.league config.seasonLabel ∈ (site config cs).leagues := by
    rw [leagues_site]
    exact List.mem_map_of_mem hl
  have hgames : (l.league config.seasonLabel).games ≠ [] :=
    LeagueRule.check_eq_nil_iff.1 (RuleSet.check_league_eq_nil h hrule _ hmem)
  rw [FetchedLeague.succeeded, Bool.not_eq_true', List.isEmpty_eq_false_iff]
  exact hgames

/-- **No league failed when the site of what was fetched has no league without matches.** -/
theorem leaguesSucceeded_eq_of_hasMatches (hrule : LeagueRule.hasMatches.asRule ∈ rules.league)
    (hcs : List.Forall₂ IsFor config.fetch.countries cs)
    (h : rules.evaluate (site config cs) = []) :
    leaguesSucceeded cs = config.leaguesRequested := by
  rw [leaguesSucceeded, List.countP_eq_length.2 (forall_succeeded_of_hasMatches hrule h),
    Config.leaguesRequested, ← map_setting_allLeagues hcs, List.length_map]

theorem allErrors_eq_nil_of_hasMatches (hrule : LeagueRule.hasMatches.asRule ∈ rules.league)
    (h : rules.evaluate (site config cs) = []) : allErrors cs = [] := by
  rw [allErrors, List.flatMap_eq_nil_iff]
  intro c hc
  rw [errors, List.filterMap_eq_nil_iff]
  intro l hl
  have hmem : l ∈ allLeagues cs := List.mem_flatMap.2 ⟨c, hc, hl⟩
  exact FetchedLeague.error?_eq_none_of_succeeded (forall_succeeded_of_hasMatches hrule h l hmem) _

end FetchedCountry

end Matchday
