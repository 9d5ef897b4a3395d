import Matchday.Proofs.Config.Valid
import Matchday.Proofs.Refresh.Published

/-!
# What valid settings assemble

A site that is made of what was fetched has the countries of the settings, all of them in the
navigation, and the season of the settings in every league.  When the settings pass their check,
the rules about these cannot be broken, whatever the client answers.

## Main definitions

* `Rule.structural`: the rules that valid settings keep.

## Main results

* `Config.seasonYears?_seasonLabel`: the years that the season of valid settings is read as.
* `FetchedCountry.holds_site`: the structural rules hold of a site made of what was fetched.
* `refresh_assembles_structured`: a run with valid settings breaks no structural rule.
-/

namespace Matchday

/-! ### The season -/

theorem Shape.toList_repr_int {n : Nat} (h : 1000 ≤ n ∧ n < 10000) :
    (n : Int).repr.toList = padded 4 n := by
  have hnat : (n : Int).repr = n.repr := rfl
  rw [hnat, Nat.toList_repr, padded_eq_toDigits h.1 h.2]

/-- The season of valid settings is read as the year in which it starts and the next one. -/
theorem Config.seasonYears?_seasonLabel {config : Config} (h : config.fetch.Valid) :
    ∃ start, Shape.seasonYears? config.seasonLabel = some (start, start + 1) := by
  obtain ⟨start, hstart⟩ : ∃ start : Nat, config.fetch.season.toInt = start :=
    Int.eq_ofNat_of_zero_le (by have := h.season; omega)
  have hseason := h.season
  rw [hstart] at hseason
  refine ⟨start, Shape.seasonYears?_eq_some_iff.2 ⟨by omega, by omega, ?_⟩⟩
  -- Valid seasons stay far below the greatest number of 32 bits, so the next year is one more.
  have hnext : (config.fetch.season + 1).toInt = (start + 1 : Nat) := by
    rw [Int32.toInt_add, hstart, Int32.toInt_one, Int.bmod_eq_of_le (by omega) (by omega)]
    rfl
  rw [seasonLabel, hstart, hnext, String.toList_append, String.toList_append,
    Shape.toList_repr_int (by omega), Shape.toList_repr_int (by omega), Shape.season,
    List.append_assoc]
  rfl

/-! ### The site -/

/-- The rules that valid settings keep. -/
def Rule.structural : List Rule :=
  [.site .uniqueCountryNames, .site .navigationTargetsExist, .league .seasonFormat,
    .navigation .noDuplicateItems, .site .countriesListedInNavigation, .navigation .notEmpty,
    .league .seasonYearsConsecutive, .country .consistentSeason]

namespace FetchedCountry

variable {config : Config} {cs : List FetchedCountry}

theorem countryNames_site (hcs : List.Forall₂ IsFor config.fetch.countries cs) :
    (site config cs).countryNames = config.fetch.countries.map (·.name) := by
  have hsettings : cs.map (·.setting) = config.fetch.countries := by
    have hmap : List.Forall₂ (· = ·) (cs.map (·.setting)) config.fetch.countries :=
      List.forall₂_map_left_iff.2 (hcs.flip.imp fun _ _ h => h.1)
    rwa [List.forall₂_eq_eq_eq] at hmap
  rw [site, Site.countryNames, Site.ofCountries_countries, List.map_map, ← hsettings, List.map_map]
  rfl

theorem map_name_items_site :
    (site config cs).navigation.items.map (·.name) = (site config cs).countryNames :=
  Site.ofCountries_items_names _ _

theorem season_eq_of_mem_leagues_site {l : League} (hl : l ∈ (site config cs).leagues) :
    l.season = config.seasonLabel := by
  rw [leagues_site] at hl
  obtain ⟨l, -, rfl⟩ := List.mem_map.1 hl
  rfl

/-- **The structural rules hold of a site made of what was fetched** with valid settings. -/
theorem holds_site (hvalid : config.fetch.Valid)
    (hcs : List.Forall₂ IsFor config.fetch.countries cs) {r : Rule} (hr : r ∈ Rule.structural) :
    r.Holds (site config cs) := by
  have hnodup : (site config cs).countryNames.Nodup := by
    rw [countryNames_site hcs]
    exact hvalid.countries_nodup
  obtain ⟨start, hyears⟩ := Config.seasonYears?_seasonLabel hvalid
  simp only [Rule.structural, List.mem_cons, List.not_mem_nil, or_false] at hr
  rcases hr with rfl | rfl | rfl | rfl | rfl | rfl | rfl | rfl
  · exact hnodup
  · intro i hi
    rw [← map_name_items_site]
    exact List.mem_map_of_mem hi
  · intro l hl
    rw [LeagueRule.Holds, season_eq_of_mem_leagues_site hl]
    exact ⟨_, hyears⟩
  · rw [Rule.Holds, NavigationRule.Holds, map_name_items_site]
    exact hnodup
  · intro c hc
    rw [map_name_items_site]
    exact List.mem_map_of_mem hc
  · intro hnil
    have hnames : [] = config.fetch.countries.map (·.name) := by
      rw [← countryNames_site hcs, ← map_name_items_site, hnil, List.map_nil]
    exact hvalid.countries_ne_nil (List.map_eq_nil_iff.1 hnames.symm)
  · intro l hl years
    rw [season_eq_of_mem_leagues_site hl, hyears]
    rintro ⟨⟩
    rfl
  · intro c hc l hl l' hl'
    have hseason : ∀ l ∈ c.leagues, l.season = config.seasonLabel := fun l hl =>
      season_eq_of_mem_leagues_site (List.mem_flatMap.2 ⟨c, hc, hl⟩)
    rw [hseason l hl, hseason l' hl']

end FetchedCountry

/-! ### Runs -/

/-- A rule whose code is one of a structural rule is structural. -/
theorem Rule.mem_structural_of_code {r : Rule}
    (h : r.code.text ∈ ["0xFC001", "0xFC004", "0xFC009", "0xFC010", "0xFC012", "0xFC018",
      "0xFC024", "0xFC026"]) : r ∈ structural := by
  revert h
  cases r with
  | site r => cases r <;> decide
  | navigation r => cases r <;> decide
  | country r => cases r <;> decide
  | league r => cases r <;> decide
  | game r => cases r <;> decide

/-- **A run with valid settings breaks no structural rule.**  Whatever the client answers, a site
that is made of the answers has different countries, a navigation block that names just these, and
one season of two consecutive years. -/
theorem refresh_assembles_structured [UrlReader] {σ : Type} (rules : RuleSet)
    (client : FixtureClient (StateM σ)) (storage : Storage (StateM σ)) {config : Config}
    (hvalid : config.validate = .ok ()) {s s' : σ} {run : RefreshRun}
    (hrun : (refresh rules client storage config).run s = (run, s'))
    (hsample : run.result.usedSample = false) {site : Site} (hsite : run.site? = some site) :
    ∀ d ∈ RuleSet.standard.evaluate site,
      d.code.text ∉ ["0xFC001", "0xFC004", "0xFC009", "0xFC010", "0xFC012", "0xFC018", "0xFC024",
        "0xFC026"] := by
  have hfor : run.IsFor rules config :=
    (gives_refresh rules client storage config).of_run_eq hrun
  intro d hd hcode
  obtain ⟨r, -, hr, hbroken⟩ : ∃ r ∈ Rule.standard, d.code = r.code ∧ ¬ r.Holds site :=
    RuleSet.exists_broken_of_mem_evaluate hd
  rw [hr] at hcode
  refine hbroken ?_
  rw [← hfor.site_eq hsample hsite]
  exact FetchedCountry.holds_site (Config.validate_eq_ok_iff.1 hvalid).2.2.1 hfor.fetched
    (Rule.mem_structural_of_code hcode)

theorem Config.validate_oneLeague : oneLeague.validate = .ok () := by
  have hsite : Text.HasInk oneLeague.site.name := Text.isAllBlank_eq_false_iff.1 (by decide +kernel)
  have hapi : oneLeague.api.validate = .ok () := by decide +kernel
  have hfetch : oneLeague.fetch.validate = .ok () := by decide +kernel
  have houtput : oneLeague.output.Valid :=
    ⟨⟨by decide, by decide⟩, ⟨by decide, by decide⟩, nofun⟩
  exact validate_eq_ok_iff.2 ⟨hsite, hapi, FetchSettings.validate_eq_ok_iff.1 hfetch, houtput⟩

/-- A match without a stadium breaks two rules about matches, but no structural one. -/
theorem oneLeague_assembles_structured :
    let run := (oneLeagueRun (.ok [{ Fixture.played with venue := none }])).1
    Config.oneLeague.validate = .ok () ∧ run.result.usedSample = false ∧
      ∃ site, run.site? = some site ∧
        (RuleSet.standard.evaluate site).map (·.code.text) = ["0xFC008", "0xFC014"] ∧
        ∀ d ∈ RuleSet.standard.evaluate site,
          d.code.text ∉ ["0xFC001", "0xFC004", "0xFC009", "0xFC010", "0xFC012", "0xFC018",
            "0xFC024", "0xFC026"] := by
  intro run
  have hsample : run.result.usedSample = false := by decide +kernel
  have hevaluate : (run.site?.map fun site =>
      (RuleSet.standard.evaluate site).map (·.code.text)) = some ["0xFC008", "0xFC014"] := by
    decide +kernel
  obtain ⟨site, hsite, hcodes⟩ := Option.map_eq_some_iff.1 hevaluate
  exact ⟨Config.validate_oneLeague, hsample, site, hsite, hcodes,
    refresh_assembles_structured .standard _ _ Config.validate_oneLeague Prod.mk.eta.symm hsample
      hsite⟩

end Matchday
