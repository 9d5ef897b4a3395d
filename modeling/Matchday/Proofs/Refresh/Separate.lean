import Matchday.Proofs.Page.ReadBack
import Matchday.Proofs.Refresh.Published

/-!
# Leagues kept apart

The pages of a site that is made of fetched leagues stand in the order of the settings, so each of
them has a subject there: the index, a country or a league.  What a page shows comes from its
subject.  Only the page of a league shows what the client has answered, and only what it has
answered about this league.

## Main definitions

* `PageSubject`, `Config.subjects`: what the pages of a site are about, in page order.
* `PageSubject.page`: the page about a subject.
* `FixtureClient.ofAnswers`: a client that answers each request in one way.

## Main results

* `Config.pages_siteOf`: the pages of a site made of fetched leagues are those of its subjects.
* `refresh_keeps_leagues_apart`: another answer about one league changes only the pages about it.
-/

namespace Matchday

/-! ### Subjects of pages -/

/-- What a page is about. -/
inductive PageSubject where
  | index
  | country (country : CountrySetting)
  | league (country : CountrySetting) (league : LeagueSetting)

/-- What the pages of a site made of fetched leagues are about, in page order. -/
def Config.subjects (config : Config) : List PageSubject :=
  .index :: config.fetch.countries.flatMap fun c => .country c :: c.leagues.map (.league c)

/-- A page of the right kind that names its subject. -/
def PageSubject.Names : PageSubject → Page → Prop
  | index, p => p.kind = .index
  | country c, p => p.kind = .country ∧ p.json.textAt? "countryName" = some c.name
  | league c l, p => p.kind = .league ∧ p.json.textAt? "countryName" = some c.name ∧
      p.json.textAt? "leagueName" = some l.name

/-- The page is not about a league that the provider calls by the given id. -/
def PageSubject.IsNotLeague (id : String) : PageSubject → Prop
  | league _ l => l.id ≠ id
  | _ => True

/-! ### Clients that answer in one way -/

/-- A client that answers each request in one way. -/
def FixtureClient.ofAnswers {m : Type → Type} [Monad m]
    (answers : FixtureRequest → FixtureAnswer) : FixtureClient m :=
  fun request => return answers request

section Answers

variable (answers : FixtureRequest → FixtureAnswer)

/-- What is fetched of a league when requests have these answers. -/
def LeagueSetting.fetched (season : Int32) (country : CountrySetting) (league : LeagueSetting) :
    FetchedLeague where
  setting := league
  answer := answers (league.request season country)

/-- What is fetched of a country when requests have these answers. -/
def CountrySetting.fetched (season : Int32) (country : CountrySetting) : FetchedCountry where
  setting := country
  leagues := country.leagues.map (LeagueSetting.fetched answers season country)

/-- What is fetched from a client that answers each request in one way. -/
def FetchSettings.fetched (fetch : FetchSettings) : List FetchedCountry :=
  fetch.countries.map (CountrySetting.fetched answers fetch.season)

namespace Config

variable (config : Config)

/-- The league of the site that these answers make. -/
def leagueOf (country : CountrySetting) (league : LeagueSetting) : League :=
  (league.fetched answers config.fetch.season country).league config.seasonLabel

/-- The country of the site that these answers make. -/
def countryOf (country : CountrySetting) : Country :=
  (country.fetched answers config.fetch.season).country config.seasonLabel

/-- The site made of what is fetched from such a client. -/
def siteOf : Site :=
  FetchedCountry.site config (config.fetch.fetched answers)

theorem leagues_countryOf (c : CountrySetting) :
    (config.countryOf answers c).leagues = c.leagues.map (config.leagueOf answers c) :=
  List.map_map ..

theorem countries_siteOf :
    (config.siteOf answers).countries = config.fetch.countries.map (config.countryOf answers) :=
  List.map_map ..

end Config

theorem fetchAll_ofAnswers {m : Type → Type} [Monad m] [LawfulMonad m] (fetch : FetchSettings) :
    fetchAll (m := m) (.ofAnswers answers) fetch = pure (fetch.fetched answers) := by
  have hcountry (c : CountrySetting) :
      fetchCountry (m := m) (.ofAnswers answers) fetch.season c =
        pure (c.fetched answers fetch.season) := by
    have hleague (l : LeagueSetting) :
        fetchLeague (m := m) (.ofAnswers answers) fetch.season c l =
          pure (l.fetched answers fetch.season c) := by
      rw [fetchLeague, FixtureClient.ofAnswers, pure_bind]
      rfl
    rw [fetchCountry, funext hleague, List.mapM_pure, pure_bind]
    rfl
  rw [fetchAll, funext hcountry, List.mapM_pure]
  rfl

theorem gives_refresh_ofAnswers {σ : Type} (rules : RuleSet) (storage : Storage (StateM σ))
    (config : Config) : Gives (fun r => r.fetched = config.fetch.fetched answers)
      (refresh rules (.ofAnswers answers) storage config) := by
  intro s
  rw [fetched_refresh, fetchAll_ofAnswers]
  rfl

/-! ### Pages of subjects -/

variable (config : Config)

/-- The page about a subject. -/
def PageSubject.page : PageSubject → Page
  | index => (config.siteOf answers).indexPage
  | country c => (config.siteOf answers).countryPage (config.countryOf answers c)
  | league c l =>
    (config.siteOf answers).leaguePage (config.countryOf answers c) (config.leagueOf answers c l)

/-- **The pages of a site made of fetched leagues are those of its subjects.** -/
theorem Config.pages_siteOf :
    (config.siteOf answers).pages = config.subjects.map (PageSubject.page answers config) := by
  have hcountry (c : CountrySetting) :
      (config.siteOf answers).countryPages (config.countryOf answers c) =
        (.country c :: c.leagues.map (.league c)).map (PageSubject.page answers config) := by
    rw [Site.countryPages, leagues_countryOf, List.map_map, List.map_cons, List.map_map]
    rfl
  rw [Site.pages, countries_siteOf, List.flatMap_map, subjects, List.map_cons, List.map_flatMap]
  exact congrArg (List.cons _) (List.flatMap_congr fun c _ => hcountry c)

theorem PageSubject.names_page (subject : PageSubject) :
    subject.Names (subject.page answers config) := by
  cases subject with
  | index => rfl
  | country c => exact ⟨rfl, rfl⟩
  | league c l => exact ⟨rfl, rfl, rfl⟩

end Answers

/-! ### Two clients -/

section TwoClients

variable (answers answers' : FixtureRequest → FixtureAnswer) (config : Config)

theorem PageSubject.pathIn_page (subject : PageSubject) (folder : String) :
    (subject.page answers config).pathIn folder = (subject.page answers' config).pathIn folder := by
  have hpath : (subject.page answers config).path = (subject.page answers' config).path := by
    cases subject <;> rfl
  rw [Page.pathIn, Page.pathIn, Page.outputFile, Page.outputFile, hpath]

/-- The list of the leagues of a country shows nothing that was answered. -/
theorem Config.leagueList_countryOf (c : CountrySetting) :
    (config.countryOf answers c).leagueList = (config.countryOf answers' c).leagueList := by
  rw [Country.leagueList, Country.leagueList, leagues_countryOf, leagues_countryOf, List.map_map,
    List.map_map]
  rfl

/-- Neither does the list of countries. -/
theorem Config.countryList_siteOf :
    (config.siteOf answers).countryList = (config.siteOf answers').countryList := by
  have hsummary (c : CountrySetting) :
      (config.countryOf answers c).summary = (config.countryOf answers' c).summary := by
    rw [Country.summary, Country.summary, config.leagueList_countryOf answers answers']
    rfl
  rw [Site.countryList, Site.countryList, countries_siteOf, countries_siteOf, List.map_map,
    List.map_map]
  exact congrArg Json.array (List.map_congr_left fun c _ => hsummary c)

variable {answers answers'} {id : String}

/-- A page that is not about a certain league stays the same when only the answers about this
league change. -/
theorem PageSubject.page_eq_of_isNotLeague
    (h : ∀ r, r.leagueId ≠ id → (answers r).result = (answers' r).result)
    {subject : PageSubject} (hsubject : subject.IsNotLeague id) :
    subject.page answers config = subject.page answers' config := by
  have hlist := config.countryList_siteOf answers answers'
  cases subject with
  | index =>
    rw [page, page, Site.indexPage, Site.indexPage, hlist]
    rfl
  | country c =>
    rw [page, page, Site.countryPage, Site.countryPage, hlist,
      config.leagueList_countryOf answers answers']
    rfl
  | league c l =>
    have hresult := h (l.request config.fetch.season c) hsubject
    have hgames : (config.leagueOf answers c l).games = (config.leagueOf answers' c l).games := by
      have hfetched : (l.fetched answers config.fetch.season c).answer.result =
          (l.fetched answers' config.fetch.season c).answer.result := hresult
      change (l.fetched answers config.fetch.season c).games =
        (l.fetched answers' config.fetch.season c).games
      rw [FetchedLeague.games, FetchedLeague.games, hfetched]
    rw [page, page, Site.leaguePage, Site.leaguePage, hlist, hgames]
    rfl

end TwoClients

/-! ### Two runs -/

theorem Config.pageFiles_siteOf (answers : FixtureRequest → FixtureAnswer) (config : Config)
    (folder : String) : (config.siteOf answers).pageFiles folder =
      config.subjects.map fun subject => (subject.page answers config).file folder := by
  rw [Site.pageFiles, pages_siteOf, List.map_map]
  rfl

/-- The paths of the pages do not depend on what was answered. -/
theorem Config.map_fst_pageFiles_siteOf (answers answers' : FixtureRequest → FixtureAnswer)
    (config : Config) (folder : String) :
    ((config.siteOf answers).pageFiles folder).map Prod.fst =
      ((config.siteOf answers').pageFiles folder).map Prod.fst := by
  have hpaths (answers : FixtureRequest → FixtureAnswer) :
      ((config.siteOf answers).pageFiles folder).map Prod.fst =
        config.subjects.map fun subject => (subject.page answers config).pathIn folder := by
    simp only [pageFiles_siteOf, List.map_map, Function.comp_def, Page.file]
  rw [hpaths, hpaths]
  exact List.map_congr_left fun subject _ => subject.pathIn_page answers answers' config folder

theorem Config.forall₂_names_pages_siteOf (answers : FixtureRequest → FixtureAnswer)
    (config : Config) :
    List.Forall₂ PageSubject.Names config.subjects (config.siteOf answers).pages := by
  rw [pages_siteOf, List.forall₂_map_right_iff, List.forall₂_same]
  exact fun subject _ => subject.names_page answers config

/-- A run that writes pages of fetched leagues publishes the site made of the answers. -/
theorem plan_eq_publish_siteOf {σ : Type} {rules : RuleSet}
    {answers : FixtureRequest → FixtureAnswer} {storage : Storage (StateM σ)} {config : Config}
    {s t : σ} {run : RefreshRun}
    (hrun : (refresh rules (.ofAnswers answers) storage config).run s = (run, t))
    (hwriting : .writing ∈ run.result.stages) (hsample : run.result.usedSample = false) :
    run.plan = .publish (config.siteOf answers) := by
  have hfor : run.IsFor rules config :=
    (gives_refresh rules _ storage config).of_run_eq hrun
  have hfetched : run.fetched = config.fetch.fetched answers :=
    (gives_refresh_ofAnswers answers rules storage config).of_run_eq hrun
  obtain ⟨site, hplan⟩ := hfor.writing_mem_stages_iff.1 hwriting
  have hsite : FetchedCountry.site config run.fetched = site :=
    hfor.site_eq hsample (by rw [RefreshRun.site?, hplan, Plan.site?])
  rw [hplan, ← hsite, hfetched, Config.siteOf]

/-- **Leagues do not show in each other's pages.**  When two clients differ only in what they answer
about one league, and both runs write pages of fetched leagues, then the storage is handed the same
paths in the same order, and the same content at each place whose page is not about this league. -/
theorem refresh_keeps_leagues_apart {σ σ' : Type} (rules : RuleSet)
    {answers answers' : FixtureRequest → FixtureAnswer} {id : String}
    (hanswers : ∀ r, r.leagueId ≠ id → (answers r).result = (answers' r).result)
    (storage : Storage (StateM σ)) (storage' : Storage (StateM σ')) (config : Config)
    {s t : σ} {s' t' : σ'} {run run' : RefreshRun}
    (hrun : (refresh rules (.ofAnswers answers) storage config).run s = (run, t))
    (hrun' : (refresh rules (.ofAnswers answers') storage' config).run s' = (run', t'))
    (hwriting : .writing ∈ run.result.stages) (hwriting' : .writing ∈ run'.result.stages)
    (hsample : run.result.usedSample = false) (hsample' : run'.result.usedSample = false) :
    ∃ site site', run.plan = .publish site ∧ run'.plan = .publish site' ∧
      (((refresh rules (FixtureClient.ofAnswers answers).beside storage.noting config).run []).run
        s).1.2 = site.files config.output ∧
      (((refresh rules (FixtureClient.ofAnswers answers').beside storage'.noting config).run []).run
        s').1.2 = site'.files config.output ∧
      List.Forall₂ PageSubject.Names config.subjects site.pages ∧
      List.Forall₂ PageSubject.Names config.subjects site'.pages ∧
      (site.pageFiles config.output.siteDir).map Prod.fst =
        (site'.pageFiles config.output.siteDir).map Prod.fst ∧
      ∀ (i : Nat) (subject : PageSubject), config.subjects[i]? = some subject →
        subject.IsNotLeague id →
          (site.pageFiles config.output.siteDir)[i]? =
            (site'.pageFiles config.output.siteDir)[i]? := by
  have hplan := plan_eq_publish_siteOf hrun hwriting hsample
  have hplan' := plan_eq_publish_siteOf hrun' hwriting' hsample'
  have hfor : run.IsFor rules config :=
    (gives_refresh rules _ storage config).of_run_eq hrun
  have hfor' : run'.IsFor rules config :=
    (gives_refresh rules _ storage' config).of_run_eq hrun'
  refine ⟨_, _, hplan, hplan', ?_, ?_, config.forall₂_names_pages_siteOf answers,
    config.forall₂_names_pages_siteOf answers', config.map_fst_pageFiles_siteOf answers answers' _,
    fun i subject hi hsubject => ?_⟩
  · rw [run_refresh_noting, hrun]
    exact (hfor.of_publish hplan).2.2
  · rw [run_refresh_noting, hrun']
    exact (hfor'.of_publish hplan').2.2
  · rw [Config.pageFiles_siteOf, Config.pageFiles_siteOf, List.getElem?_map, List.getElem?_map, hi,
      Option.map_some, Option.map_some,
      PageSubject.page_eq_of_isNotLeague config hanswers hsubject]

/-! ### A run of two leagues -/

/-- A country with two leagues. -/
def CountrySetting.spain : CountrySetting where
  name := "Spain"
  code := "ES"
  leagues := [{ name := "LaLiga", id := "140" }, { name := "LaLiga2", id := "141" }]

/-- Settings with two leagues. -/
def Config.twoLeagues : Config where
  site := Config.oneLeague.site
  api := Config.oneLeague.api
  fetch := { season := 2025, countries := [.spain] }
  output := Config.oneLeague.output

/-- One played match for each league; that of the first league ends with the given score. -/
def FixtureRequest.answerWith (home : Int32) (request : FixtureRequest) : FixtureAnswer where
  result :=
    if request.leagueId = "140" then
      .ok [{ Fixture.played with score := some { home := some home, away := some 2 } }]
    else .ok [.played]

/-- A run of two leagues with a storage that keeps nothing. -/
def twoLeaguesRun (home : Int32) : RefreshRun × Unit :=
  (refresh (m := StateM Unit) .standard (.ofAnswers (FixtureRequest.answerWith home))
    (Storage.answering fun _ => false) .twoLeagues).run ()

/-- Another score in the first league leaves the page of the second one as it is. -/
theorem twoLeagues_keeps_leagues_apart :
    (∀ home ∈ [3, 7], .writing ∈ (twoLeaguesRun home).1.result.stages ∧
      (twoLeaguesRun home).1.result.usedSample = false) ∧
    ∃ site site', (twoLeaguesRun 3).1.plan = .publish site ∧
      (twoLeaguesRun 7).1.plan = .publish site' ∧
      (site.pageFiles "site").map Prod.fst = (site'.pageFiles "site").map Prod.fst ∧
      (site.pageFiles "site")[3]? = (site'.pageFiles "site")[3]? := by
  have hthree : .writing ∈ (twoLeaguesRun 3).1.result.stages ∧
      (twoLeaguesRun 3).1.result.usedSample = false := by decide +kernel
  have hseven : .writing ∈ (twoLeaguesRun 7).1.result.stages ∧
      (twoLeaguesRun 7).1.result.usedSample = false := by decide +kernel
  have hanswers : ∀ r : FixtureRequest, r.leagueId ≠ "140" →
      (r.answerWith 3).result = (r.answerWith 7).result := by
    intro r hr
    rw [FixtureRequest.answerWith, FixtureRequest.answerWith, if_neg hr, if_neg hr]
  obtain ⟨site, site', hplan, hplan', -, -, -, -, hpaths, hfiles⟩ :=
    refresh_keeps_leagues_apart .standard hanswers _ _ .twoLeagues Prod.mk.eta.symm
      Prod.mk.eta.symm hthree.1 hseven.1 hthree.2 hseven.2
  have hother : PageSubject.IsNotLeague "140" (.league .spain { name := "LaLiga2", id := "141" }) :=
    (by decide : "141" ≠ "140")
  exact ⟨by simpa using ⟨hthree, hseven⟩, site, site', hplan, hplan', hpaths, hfiles 3 _ rfl hother⟩

end Matchday
