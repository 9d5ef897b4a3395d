import Matchday.Proofs.Refresh.Accounted
import Matchday.Proofs.Refresh.Assembled
import Matchday.Proofs.Refresh.Attempted

/-!
# Runs that may fall back on the built-in site

Settings may allow the built-in site to stand in for fetched matches.  It does so when no answer was
usable and never otherwise, and what is published is then the built-in site alone: it keeps all of
the usual rules under every name, and no share of fetched leagues is asked of it.  In all other runs
the site that is checked is made of the answers alone.

## Main definitions

* `Config.entries`: the leagues of the settings with their countries.
* `Exchange.error?`: what is reported about one answer.
* `Site.IsMadeOf`: a site that is made of the exchanges of a run.
* `RefreshRun.FallsBack`: a run that falls back on the built-in site when no answer was usable.

## Main results

* `Site.evaluate_sample`: the built-in site keeps the usual rules under every name.
* `FetchedCountry.isMadeOf_site`: the site of what was fetched is made of the exchanges.
* `refresh_falls_back`: every run with settings that allow it falls back in this way.
-/

namespace Matchday

/-! ### The built-in site -/

/-- No usual rule looks at the name of a site. -/
theorem Rule.holds_rename {r : Rule} {s : Site} (name : String) (h : r.Holds s) :
    r.Holds { s with name } := by
  cases r with
  | site r => cases r <;> exact h
  | _ => exact h

/-- **The built-in site keeps the usual rules under every name.** -/
theorem Site.evaluate_sample (name : String) :
    RuleSet.standard.evaluate (sample name) = [] := by
  have hunnamed : RuleSet.standard.evaluate (sample "") = [] := by decide +kernel
  rw [RuleSet.standard_silent_iff] at hunnamed ⊢
  exact fun r => Rule.holds_rename name (hunnamed r)

/-! ### Errors -/

/-- The leagues of the settings with their countries, in the order in which they are asked for. -/
def Config.entries (config : Config) : List (CountrySetting × LeagueSetting) :=
  config.fetch.countries.flatMap fun c => c.leagues.map (c, ·)

/-- What is reported about the answer for a league: the error that came back, if one did, led in by
country and league. -/
def Exchange.error? (entry : CountrySetting × LeagueSetting) (e : Exchange) : Option String :=
  match e.answer.result with
  | .ok _ => none
  | .error error => some s!"{entry.1.name}/{entry.2.name}: {error.message}"

namespace FetchedCountry

theorem IsFor.errors_eq {setting : CountrySetting} {c : FetchedCountry} (h : IsFor setting c)
    (season : Int32) :
    c.errors = ((setting.leagues.map (setting, ·)).zip (c.exchanges season)).filterMap
      fun (entry, e) => e.error? entry := by
  rw [← h.2, ← h.1, exchanges, List.map_map, List.zip_map', List.filterMap_map, errors]
  rfl

theorem allErrors_eq {settings : List CountrySetting} {cs : List FetchedCountry}
    (h : List.Forall₂ IsFor settings cs) (season : Int32) :
    allErrors cs = ((settings.flatMap fun c => c.leagues.map (c, ·)).zip
      (cs.flatMap (exchanges season))).filterMap fun (entry, e) => e.error? entry := by
  induction h with
  | nil => rfl
  | @cons setting c settings cs hc _ ih =>
    have hlength : (setting.leagues.map (setting, ·)).length = (c.exchanges season).length := by
      rw [exchanges, List.length_map, List.length_map, hc.length_leagues]
    rw [allErrors] at ih
    rw [allErrors, List.flatMap_cons, List.flatMap_cons, List.flatMap_cons,
      List.zip_append hlength, List.filterMap_append, hc.errors_eq season, ih]

end FetchedCountry

/-- A run reports the error of each answer that is one, in the order of the requests. -/
theorem RefreshRun.IsFor.apiErrors_eq {rules : RuleSet} {config : Config} {r : RefreshRun}
    (h : r.IsFor rules config) :
    r.result.apiErrors =
      (config.entries.zip r.exchanges).filterMap fun (entry, e) => e.error? entry := by
  rw [exchanges, h.config_eq, h.result_eq]
  exact FetchedCountry.allErrors_eq h.fetched config.fetch.season

/-! ### The site of what was fetched -/

/-- A site that is made of the exchanges of a run: one country for each country of the settings, in
it one league for each of its leagues, in each league the played matches of one exchange. -/
structure Site.IsMadeOf (config : Config) (exchanges : List Exchange) (s : Site) : Prop where
  name_eq : s.name = config.site.name
  navigation : s.navigation.items.map (·.name) = config.fetch.countries.map (·.name)
  countries : List.Forall₂ (fun (setting : CountrySetting) (c : Country) =>
    c.name = setting.name ∧
      List.Forall₂ (fun (setting : LeagueSetting) (l : League) =>
        l.name = setting.name ∧ l.season = config.seasonLabel) setting.leagues c.leagues)
    config.fetch.countries s.countries
  games : s.leagues.map (·.games) = exchanges.map (·.games)

namespace FetchedCountry

variable {config : Config} {cs : List FetchedCountry}

theorem IsFor.forall₂_leagues {setting : CountrySetting} {c : FetchedCountry}
    (h : IsFor setting c) (season : String) :
    List.Forall₂ (fun (setting : LeagueSetting) (l : League) =>
      l.name = setting.name ∧ l.season = season) setting.leagues (c.country season).leagues := by
  rw [← h.2, country, List.forall₂_map_left_iff, List.forall₂_map_right_iff, List.forall₂_same]
  exact fun l _ => ⟨rfl, rfl⟩

/-- **The site of what was fetched is made of the exchanges.** -/
theorem isMadeOf_site (h : List.Forall₂ IsFor config.fetch.countries cs) :
    (site config cs).IsMadeOf config (cs.flatMap (exchanges config.fetch.season)) where
  name_eq := rfl
  navigation := map_name_items_site.trans (countryNames_site h)
  countries := by
    rw [site, Site.ofCountries_countries, List.forall₂_map_right_iff]
    exact h.imp fun setting c hc => ⟨congrArg (·.name) hc.1, hc.forall₂_leagues _⟩
  games := by
    have hcountry (c : FetchedCountry) : (c.exchanges config.fetch.season).map (·.games) =
        c.leagues.map (·.games) := by
      rw [exchanges, List.map_map]
      rfl
    rw [leagues_site, List.map_map, List.map_flatMap, allLeagues, List.map_flatMap]
    exact List.flatMap_congr fun c _ => (hcountry c).symm

end FetchedCountry

/-! ### Runs -/

/-- A run that falls back on the built-in site when no answer was usable, and otherwise works with
the answers alone; `exchanges` are those with its client, and `files` is what its storage was
handed. -/
structure RefreshRun.FallsBack (config : Config) (exchanges : List Exchange)
    (files : List (String × ByteArray)) (r : RefreshRun) : Prop where
  usedSample_iff : r.result.usedSample ↔ ∀ e ∈ exchanges, e.usable = false
  /-- Errors are reported whether the built-in site is used or not. -/
  apiErrors_eq : r.result.apiErrors =
    (config.entries.zip exchanges).filterMap fun (entry, e) => e.error? entry
  of_sample : r.result.usedSample → r.site? = some (.sample config.site.name) ∧
    r.result.outcome = .success ∧ files = (Site.sample config.site.name).files config.output ∧
    r.result.pagesWritten = (Site.sample config.site.name).pages.length
  of_fetched : r.result.usedSample = false → r.result.outcome ≠ .fetchBelowThreshold →
    ∃ site, r.site? = some site ∧ site.IsMadeOf config exchanges ∧
      r.result.diagnostics = (RuleSet.standard.evaluate site).map Diagnostic.text ∧
      (RuleSet.standard.evaluate site = [] → files = site.files config.output)

namespace RefreshRun.IsFor

variable {rules : RuleSet} {config : Config} {r : RefreshRun}

theorem usedSample_iff (h : r.IsFor rules config) (hfallback : config.fetch.fallbackToSample) :
    r.result.usedSample ↔ ∀ e ∈ r.exchanges, e.usable = false := by
  have hnone : r.result.usedSample ↔ FetchedCountry.leaguesSucceeded r.fetched = 0 := by
    rw [h.usedSample_eq, usesSample, hfallback, Bool.true_and, beq_iff_eq]
  rw [hnone, FetchedCountry.leaguesSucceeded_eq_countP r.config.fetch.season,
    List.countP_eq_zero]
  simp only [Bool.not_eq_true]
  rfl

/-- The built-in site is published, whatever share of leagues was asked for. -/
theorem plan_of_usedSample (h : r.IsFor .standard config) (hsample : r.result.usedSample) :
    r.plan = .publish (.sample config.site.name) := by
  rw [h.usedSample_eq] at hsample
  rw [h.plan_eq, Plan.of_eq_publish_iff]
  exact ⟨Or.inl hsample, if_pos hsample, Site.evaluate_sample _⟩

theorem isMadeOf {site : Site} (h : r.IsFor rules config) (hsample : r.result.usedSample = false)
    (hsite : r.site? = some site) : site.IsMadeOf config r.exchanges := by
  rw [← h.site_eq hsample hsite, exchanges, h.config_eq]
  exact FetchedCountry.isMadeOf_site h.fetched

/-- A run that has not fallen short has checked a site, and it reports what the rules found. -/
theorem exists_site (h : r.IsFor rules config)
    (houtcome : r.result.outcome ≠ .fetchBelowThreshold) :
    ∃ site, r.site? = some site ∧
      r.result.diagnostics = (rules.evaluate site).map Diagnostic.text ∧
      (rules.evaluate site = [] → r.files = site.files config.output) := by
  obtain ⟨-, hplan⟩ | ⟨-, site, -, ⟨hsilent, hplan⟩ | ⟨hreported, hplan⟩⟩ :=
    Plan.of_cases rules config r.fetched
  · rw [h.result_eq, h.plan_eq, hplan] at houtcome
    exact absurd rfl houtcome
  · rw [← h.plan_eq] at hplan
    refine ⟨site, congrArg Plan.site? hplan, ?_, fun _ => (h.of_publish hplan).2.2⟩
    rw [h.result_eq, hplan, hsilent]
    rfl
  · rw [← h.plan_eq] at hplan
    refine ⟨site, congrArg Plan.site? hplan, ?_, fun hsilent => absurd hsilent hreported⟩
    rw [h.result_eq, hplan]
    rfl

/-- A run that publishes the built-in site succeeds when everything can be written. -/
theorem fallsBack (h : r.IsFor .standard config) (hfallback : config.fetch.fallbackToSample)
    (hwritten : ∀ site, r.plan = .publish site →
      r.written.IsFor (fun _ result => false = !result.isOk) config.output site) :
    r.FallsBack config r.exchanges r.files where
  usedSample_iff := h.usedSample_iff hfallback
  apiErrors_eq := h.apiErrors_eq
  of_sample hsample := by
    have hplan := h.plan_of_usedSample hsample
    have haccounts : r.result.AccountsForFiles (fun _ => false) config.output
        (.sample config.site.name) := by
      rw [h.result_eq, hplan]
      exact (hwritten _ hplan).accountsForFiles config r.fetched
    refine ⟨congrArg Plan.site? hplan, haccounts.success_iff.2 fun _ _ => rfl,
      (h.of_publish hplan).2.2, ?_⟩
    rw [haccounts.pagesWritten_eq, Bool.not_false, List.countP_true, Site.pagePaths,
      List.length_map]
  of_fetched hsample houtcome := by
    obtain ⟨site, hsite, hdiagnostics, hfiles⟩ := h.exists_site houtcome
    exact ⟨site, hsite, h.isMadeOf hsample hsite, hdiagnostics, hfiles⟩

end RefreshRun.IsFor

/-- **Every run with settings that allow it falls back on the built-in site when no answer was
usable**, whatever the client answers, if the storage accepts everything.  The exchanges with the
client and the files that the storage is handed are noted beside the run. -/
theorem refresh_falls_back {σ : Type} (client : FixtureClient (StateM σ))
    (storage : Storage (StateM σ)) (haccepts : storage.FailsAt fun _ => false) {config : Config}
    (hfallback : config.fetch.fallbackToSample) (s : σ) :
    let ended := (refresh .standard client storage config).run s
    let asked := ((refresh .standard client.noting storage.beside config).run []).run s
    let handed := ((refresh .standard client.beside storage.noting config).run []).run s
    asked.1.1 = ended.1 ∧ asked.2 = ended.2 ∧ handed.1.1 = ended.1 ∧ handed.2 = ended.2 ∧
      asked.1.2.map (·.request) = config.requests ∧
      ended.1.FallsBack config asked.1.2 handed.1.2 := by
  intro ended asked handed
  have hfor : ended.1.IsFor .standard config := gives_refresh .standard client storage config s
  have hwritten := gives_refresh_isFor haccepts .standard client config s
  have hasked : asked = ((ended.1, ended.1.exchanges), ended.2) := by
    simp only [asked, run_refresh_exchanges, StateT.run_map, List.nil_append]
    rfl
  have hhanded : handed = ((ended.1, ended.1.files), ended.2) :=
    run_refresh_noting .standard client config storage s
  rw [hasked, hhanded]
  exact ⟨rfl, rfl, rfl, rfl, hfor.map_request_exchanges, hfor.fallsBack hfallback hwritten⟩

/-- Settings with one league that must be fetched, or else the built-in site is used. -/
def Config.fallback : Config :=
  { oneLeague with
    fetch := { oneLeague.fetch with minSuccessRate := 1, fallbackToSample := true } }

/-- A run with these settings and a memory. -/
def fallbackRun (result : Except SiteError (List Fixture)) : RefreshRun × Memory :=
  (refresh (m := StateM Memory) .standard (.constantly result) Memory.storage .fallback).run
    oldMemory

/-- The built-in site is published when the client is offline, and one played match keeps it
away. -/
theorem fallback_refresh_falls_back :
    (Memory.storage (m := Id)).FailsAt (fun _ => false) ∧
      Config.fallback.fetch.fallbackToSample = true ∧
      (fallbackRun (.error (.io "offline"))).1.result.usedSample = true ∧
      (fallbackRun (.error (.io "offline"))).1.result.outcome = .success ∧
      (fallbackRun (.error (.io "offline"))).1.site? = some (.sample "Results") ∧
      (fallbackRun (.error (.io "offline"))).1.result.apiErrors =
        ["Spain/LaLiga: " ++ (SiteError.io "offline").message] ∧
      (fallbackRun (.ok [.played])).1.result.usedSample = false ∧
      ∃ site, (fallbackRun (.ok [.played])).1.site? = some site ∧
        site.navigation.items.map (·.name) = ["Spain"] ∧
        (site.leagues.map (·.games)).map List.length = [1] := by
  have haccepts : (Memory.storage (m := Id)).FailsAt fun _ => false := fun _ _ _ => rfl
  have hfallback : Config.fallback.fetch.fallbackToSample = true := rfl
  have hsample : (fallbackRun (.error (.io "offline"))).1.result.usedSample = true := by
    decide +kernel
  have hfetched : (fallbackRun (.ok [.played])).1.result.usedSample = false := by decide +kernel
  have hsuccess : (fallbackRun (.ok [.played])).1.result.outcome ≠ .fetchBelowThreshold := by
    decide +kernel
  obtain ⟨-, -, -, -, -, hoffline⟩ := refresh_falls_back
    (.constantly (.error (.io "offline"))) Memory.storage haccepts hfallback oldMemory
  obtain ⟨-, -, -, -, -, honline⟩ := refresh_falls_back
    (.constantly (.ok [.played])) Memory.storage haccepts hfallback oldMemory
  obtain ⟨hsite, houtcome, -, -⟩ := hoffline.of_sample hsample
  obtain ⟨site, hsite', hmade, -, -⟩ := honline.of_fetched hfetched hsuccess
  have hgames : (site.leagues.map (·.games)).map List.length = [1] := by
    rw [hmade.games]
    decide +kernel
  exact ⟨haccepts, hfallback, hsample, houtcome, hsite, hoffline.apiErrors_eq, hfetched,
    site, hsite', hmade.navigation, hgames⟩

end Matchday
