import Matchday.Proofs.Json.Spelling
import Matchday.Proofs.Refresh.Ended

/-!
# What is published

Only sites without violations are published.  With the rule that no league is without matches, a
published site that is made of fetched leagues has all leagues of the settings, whatever share of
them would have been enough.

## Main definitions

* `ShowsMatches`: a file that shows matches.

## Main results

* `refresh_publishes_complete`: all leagues are there when fetched leagues are published.
* `refresh_stores_valid`: a memory changes only by the files of a site without violations.
-/

namespace Matchday

/-! ### A run of one league -/

/-- Settings with one league. -/
def Config.oneLeague : Config where
  site := { name := "Results" }
  api := { baseUrl := "https://example.org", apiKey := "key" }
  fetch := {
    season := 2025
    countries := [{
      name := "Spain"
      code := "ES"
      leagues := [{ name := "LaLiga", id := "140" }] }] }
  output := { path := "out" }

/-- A fixture that becomes a match. -/
def Fixture.played : Fixture where
  date := some "2026-02-15T21:00:00+00:00"
  homeTeam := some { name := some "Real Madrid", city := some "Madrid" }
  awayTeam := some { name := some "FC Barcelona", city := some "Barcelona" }
  score := some { home := some 3, away := some 2 }
  venue := some { name := some "Santiago Bernabéu" }

/-- A client that always gives the same answer. -/
def FixtureClient.constantly {m : Type → Type} [Monad m]
    (result : Except SiteError (List Fixture)) : FixtureClient m :=
  fun _ => return { result }

/-- A memory with one file. -/
def oldMemory : Memory :=
  Table.empty.insert "old.json" "old".toUTF8

/-- A run of one league with a memory. -/
def oneLeagueRun (result : Except SiteError (List Fixture)) : RefreshRun × Memory :=
  (refresh (m := StateM Memory) .standard (.constantly result) Memory.storage .oneLeague).run
    oldMemory

/-- A run of one league with a memory that refuses the index page. -/
def oneLeagueRefusedRun (result : Except SiteError (List Fixture)) : RefreshRun × Memory :=
  (((refresh (m := StateT Memory (StateM Unit)) .standard
    (FixtureClient.beside (.constantly result)) (Memory.storage.refusing (· == "site/index.json"))
    .oneLeague).run oldMemory).run ()).1

/-! ### Complete sites -/

/-- A file that shows matches: the text of an object whose members have different keys, and whose
member `matches` is a list with at least one item. -/
def ShowsMatches (content : ByteArray) : Prop :=
  ∃ text data row rows, content = text.toUTF8 ∧ (Json.object data).IsText text ∧
    (data.map Prod.fst).Nodup ∧ ("matches", Json.array (row :: rows)) ∈ data

namespace Site

variable {s : Site}

theorem exists_eq_leaguePage {page : Page} (h : page ∈ s.pages) (hkind : page.kind = .league) :
    ∃ c, ∃ l ∈ s.leagues, page = s.leaguePage c l := by
  rcases List.mem_cons.1 h with rfl | h
  · contradiction
  · obtain ⟨c, hc, h⟩ := List.mem_flatMap.1 h
    rcases List.mem_cons.1 h with rfl | h
    · contradiction
    · obtain ⟨l, hl, rfl⟩ := List.mem_map.1 h
      exact ⟨c, l, List.mem_flatMap.2 ⟨c, hc, hl⟩, rfl⟩

/-- The pages of leagues show matches when no league is without matches. -/
theorem showsMatches_of_hasMatches {rules : RuleSet}
    (hrule : LeagueRule.hasMatches.asRule ∈ rules.league) (h : rules.evaluate s = [])
    {page : Page} (hpage : page ∈ s.pages) (hkind : page.kind = .league) :
    ShowsMatches (Json.object page.data).pretty.toUTF8 := by
  obtain ⟨c, l, hl, rfl⟩ := exists_eq_leaguePage hpage hkind
  have hgames : l.games ≠ [] :=
    LeagueRule.check_eq_nil_iff.1 (RuleSet.check_league_eq_nil h hrule l hl)
  obtain ⟨game, games, hcons⟩ := List.exists_cons_of_ne_nil hgames
  have hkeys : (s.leaguePage c l).data.map Prod.fst = ["countries", "countryName", "countrySlug",
      "leagueName", "leagueSlug", "matches", "season", "siteName"] := rfl
  refine ⟨_, (s.leaguePage c l).data, game.row, games.map Match.row, rfl, Json.isText_pretty _,
    by rw [hkeys]; decide, ?_⟩
  simp [leaguePage, hcons]

end Site

/-- The usual rules for leagues are in the set of all usual rules. -/
theorem RuleSet.asRule_mem_standard (r : LeagueRule) : r.asRule ∈ standard.league := by
  have hleague : standard.league =
      [LeagueRule.nameStartsUppercase, .seasonFormat, .matchDateWithinSeason, .hasMatches,
        .uniqueMatches, .nameLength, .seasonYearsConsecutive, .maxMatches].map
          LeagueRule.asRule := rfl
  rw [hleague]
  exact List.mem_map_of_mem (by cases r <;> decide)

/-- **A site made of fetched leagues is published only when every league succeeded.**  Then no
error came back, and the storage is handed for each page the text of its data, in which each page of
a league shows matches. -/
theorem refresh_publishes_complete {σ : Type} (rules : RuleSet)
    (hrule : LeagueRule.hasMatches.asRule ∈ rules.league) (client : FixtureClient (StateM σ))
    (storage : Storage (StateM σ)) (config : Config) {s s' : σ} {run : RefreshRun}
    (hrun : (refresh rules client storage config).run s = (run, s'))
    (hsample : run.result.usedSample = false) (hwriting : .writing ∈ run.result.stages) :
    run.result.leaguesSucceeded = run.result.leaguesRequested ∧ run.result.apiErrors = [] ∧
      ∃ site, run.plan = .publish site ∧
        (((refresh rules client.beside storage.noting config).run []).run s).1.2 =
          site.pages.map (fun page => (page.pathIn config.output.siteDir,
            (Json.object page.data).pretty.toUTF8)) ++
          config.output.modelFile.toList.map (fun path => (path, site.modelText.toUTF8)) ∧
        ∀ page ∈ site.pages, page.kind = .league →
          ShowsMatches (Json.object page.data).pretty.toUTF8 := by
  have hfor : run.IsFor rules config := by
    have hgives := gives_refresh rules client storage config s
    rwa [hrun] at hgives
  obtain ⟨site, hplan⟩ := hfor.writing_mem_stages_iff.1 hwriting
  obtain ⟨hsite, hevaluate, hfiles⟩ := hfor.of_publish hplan
  have hfetched : FetchedCountry.site config run.fetched = site := by
    rw [hfor.usedSample_eq] at hsample
    rwa [assembledSite, hsample, if_neg Bool.false_ne_true] at hsite
  have hsilent : rules.evaluate (FetchedCountry.site config run.fetched) = [] := by
    rw [hfetched, hevaluate]
  refine ⟨?_, ?_, site, hplan, ?_, ?_⟩
  · rw [hfor.result_eq]
    exact FetchedCountry.leaguesSucceeded_eq_of_hasMatches hrule hfor.fetched hsilent
  · rw [hfor.result_eq]
    exact FetchedCountry.allErrors_eq_nil_of_hasMatches hrule hsilent
  · rw [run_refresh_noting, hrun]
    exact hfiles
  · exact fun page hpage hkind => Site.showsMatches_of_hasMatches hrule hevaluate hpage hkind

/-- One played match is enough for a site of one league. -/
theorem oneLeague_publishes_complete :
    (oneLeagueRun (.ok [.played])).1.result.usedSample = false ∧
      .writing ∈ (oneLeagueRun (.ok [.played])).1.result.stages ∧
      (oneLeagueRun (.ok [.played])).1.result.leaguesSucceeded = 1 ∧
      (oneLeagueRun (.ok [.played])).1.result.apiErrors = [] ∧
      ∃ site, (oneLeagueRun (.ok [.played])).1.plan = .publish site ∧
        ∀ page ∈ site.pages, page.kind = .league →
          ShowsMatches (Json.object page.data).pretty.toUTF8 := by
  have hsample : (oneLeagueRun (.ok [.played])).1.result.usedSample = false := by decide +kernel
  have hwriting : .writing ∈ (oneLeagueRun (.ok [.played])).1.result.stages := by decide +kernel
  obtain ⟨hleagues, herrors, site, hplan, -, hpages⟩ :=
    refresh_publishes_complete .standard (RuleSet.asRule_mem_standard _) _ _ _ Prod.mk.eta.symm
      hsample hwriting
  exact ⟨hsample, hwriting, hleagues, herrors, site, hplan, hpages⟩

/-! ### Valid sites -/

/-- **Nothing reaches a storage but the files of a site without violations.**  A run that ends
before the writing leaves the storage as it was; any other run has checked a site and found nothing,
and the paths that are not those of the site keep their bytes. -/
theorem refresh_stores_valid {σ : Type} (rules : RuleSet) (client : FixtureClient (StateM σ))
    (refuses : String → Bool) (config : Config) {memory memory' : Memory} {s s' : σ}
    {run : RefreshRun}
    (hrun : ((refresh rules client.beside (Memory.storage.refusing refuses) config).run memory).run
      s = ((run, memory'), s')) :
    (run.result.outcome = .fetchBelowThreshold ∨ run.result.outcome = .validationFailed →
      memory' = memory) ∧
    (run.result.outcome = .success ∨ run.result.outcome = .writeError →
      ∃ site, run.plan = .publish site ∧ assembledSite config run.fetched = site ∧
        rules.evaluate site = [] ∧
        ∀ path, (∀ page ∈ site.pages, page.pathIn config.output.siteDir ≠ path) →
          config.output.modelFile ≠ some path → memory'.get? path = memory.get? path) := by
  rw [run_refresh_refusing] at hrun
  obtain rfl : ((refresh rules client (Storage.answering refuses) config).run s).1 = run :=
    congrArg (fun ended => ended.1.1) hrun
  obtain rfl : memory.store refuses
      ((refresh rules client (Storage.answering refuses) config).run s).1.files = memory' :=
    congrArg (fun ended => ended.1.2) hrun
  have hfor := gives_refresh rules client (Storage.answering refuses) config s
  constructor
  · intro houtcome
    exact congrArg (memory.store refuses) (hfor.files_eq_nil_of_outcome houtcome)
  · intro houtcome
    obtain ⟨site, hplan⟩ := hfor.outcome_written_iff.1 houtcome
    obtain ⟨hsite, hevaluate, hfiles⟩ := hfor.of_publish hplan
    refine ⟨site, hplan, hsite, hevaluate, fun path hpages hmodel => ?_⟩
    refine Memory.get?_store_of_notMem ?_
    rw [hfiles, Site.mem_map_fst_files_iff, not_or, not_exists]
    exact ⟨fun page hpage => hpages page hpage.1 hpage.2, hmodel⟩

/-- A memory keeps an old file, whether the league is fetched or not. -/
theorem oneLeague_stores_valid :
    (oneLeagueRefusedRun (.error (.io "offline"))).1.result.outcome = .fetchBelowThreshold ∧
      (oneLeagueRefusedRun (.error (.io "offline"))).2 = oldMemory ∧
      (oneLeagueRefusedRun (.ok [.played])).1.result.outcome = .writeError ∧
      (oneLeagueRefusedRun (.ok [.played])).2.get? "old.json" = oldMemory.get? "old.json" := by
  have hrun (result : Except SiteError (List Fixture)) :
      ((refresh (m := StateT Memory (StateM Unit)) .standard
        (FixtureClient.beside (.constantly result))
        (Memory.storage.refusing (· == "site/index.json")) .oneLeague).run oldMemory).run () =
      (((oneLeagueRefusedRun result).1, (oneLeagueRefusedRun result).2), ()) :=
    Prod.ext (Prod.ext rfl rfl) rfl
  have hbelow : (oneLeagueRefusedRun (.error (.io "offline"))).1.result.outcome =
      .fetchBelowThreshold := by decide +kernel
  have hwritten : (oneLeagueRefusedRun (.ok [.played])).1.result.outcome = .writeError := by
    decide +kernel
  have hkept := (refresh_stores_valid _ _ _ _ (hrun (.error (.io "offline")))).1 (Or.inl hbelow)
  obtain ⟨site, -, rfl, -, hkeeps⟩ :=
    (refresh_stores_valid _ _ _ _ (hrun (.ok [.played]))).2 (Or.inr hwritten)
  exact ⟨hbelow, hkept, hwritten, hkeeps "old.json" (by decide +kernel) (by decide)⟩

end Matchday
