import Matchday.Page.Compile
import Matchday.Proofs.Document.Content

/-!
# Pages read back

The pages of a site are a flat list, but nothing is lost in it: each country page is followed by
the pages of its leagues, and each page carries its part of the document under the keys of its
members.  Reading the list from its end gathers the leagues until the page of their country comes.

## Main definitions

* `Match.ofRow?`, `League.ofPage?`: a match and a league, from what a page shows of them.
* `Site.ofPages?`: the content of a site, from its pages.
* `Page.rows`: the rows of matches on a page.

## Main results

* `Site.ofPages?_pages`: reading the pages of a site gives its content.
* `Site.pages_eq_pages_iff`: two sites have the same pages exactly when they have the same content.
-/

namespace Matchday

/-! ### Members of objects -/

namespace Json

/-- The value of a member. -/
def member? (key : String) : Json → Option Json
  | object members => members.lookup key
  | _ => none

/-- The text under a key of an object. -/
def textAt? (key : String) (j : Json) : Option String :=
  match j.member? key with
  | some (text s) => some s
  | _ => none

/-- The integer under a key of an object. -/
def intAt? (key : String) (j : Json) : Option Int :=
  match j.member? key with
  | some (int n) => some n
  | _ => none

/-- The items of the array under a key of an object. -/
def arrayAt? (key : String) (j : Json) : Option (List Json) :=
  match j.member? key with
  | some (array items) => some items
  | _ => none

end Json

/-- The data object of a page. -/
def Page.json (p : Page) : Json :=
  .object p.data

/-- The rows of matches on a page. -/
def Page.rows (p : Page) : List Json :=
  (p.json.arrayAt? "matches").getD []

/-! ### Reading -/

/-- The match that a row shows, each field under its own key. -/
def Match.ofRow? (row : Json) : Option Match := do
  return {
    date := ← row.textAt? "date"
    time := ← row.textAt? "time"
    homeTeam := ← row.textAt? "homeTeam"
    homeCity := ← row.textAt? "homeCity"
    awayTeam := ← row.textAt? "awayTeam"
    awayCity := ← row.textAt? "awayCity"
    homeScore := .ofInt (← row.intAt? "homeScore")
    awayScore := .ofInt (← row.intAt? "awayScore")
    stadium := ← row.textAt? "stadium" }

/-- The league of a page. -/
def League.ofPage? (p : Page) : Option League := do
  return {
    name := ← p.json.textAt? "leagueName"
    season := ← p.json.textAt? "season"
    games := ← p.rows.mapM Match.ofRow? }

namespace Site

/-- Reads a page in front of others, of which some leagues without a country and some countries
have been read. -/
def gather (p : Page) : List League × List Country → Option (List League × List Country)
  | (leagues, countries) =>
    match p.kind with
    | .league => do return ((← League.ofPage? p) :: leagues, countries)
    | .country => do return ([], { name := ← p.json.textAt? "countryName", leagues } :: countries)
    | .index => none

/-- The content of the site that some pages show. -/
def ofPages? : List Page → Option Site
  | [] => none
  | index :: pages => do
    let name ← index.json.textAt? "siteName"
    match ← pages.foldrM gather ([], []) with
    | ([], countries) => return { name, countries }
    | _ => none

end Site

/-! ### What is read -/

theorem Match.ofRow?_row (m : Match) : ofRow? m.row = some (m.at {}) := by
  have hhome : Int32.ofInt m.homeScore.toInt = m.homeScore := Int32.ofInt_toInt _
  have haway : Int32.ofInt m.awayScore.toInt = m.awayScore := Int32.ofInt_toInt _
  calc ofRow? m.row = some { m.at {} with
        homeScore := .ofInt m.homeScore.toInt, awayScore := .ofInt m.awayScore.toInt } := rfl
    _ = some (m.at {}) := by rw [hhome, haway]; rfl

theorem Match.mapM_ofRow?_map_row (games : List Match) :
    (games.map row).mapM ofRow? = some (games.map (·.at {})) := by
  rw [List.mapM_map]
  exact (congrArg (games.mapM ·) (funext ofRow?_row)).trans List.mapM_pure

namespace Site

variable (s : Site)

@[simp] theorem rows_leaguePage (c : Country) (l : League) :
    (s.leaguePage c l).rows = l.games.map Match.row := rfl

theorem ofPage?_leaguePage (c : Country) (l : League) :
    League.ofPage? (s.leaguePage c l) = some l.unplaced := by
  have hname : (s.leaguePage c l).json.textAt? "leagueName" = some l.name := rfl
  have hseason : (s.leaguePage c l).json.textAt? "season" = some l.season := rfl
  rw [League.ofPage?, hname, hseason, rows_leaguePage, Match.mapM_ofRow?_map_row]
  rfl

theorem foldrM_gather_leaguePages (c : Country) (ls : List League) (countries : List Country) :
    (ls.map (s.leaguePage c)).foldrM gather ([], countries) =
      some (ls.map League.unplaced, countries) := by
  induction ls with
  | nil => rfl
  | cons l ls ih =>
    have hkind : (s.leaguePage c l).kind = .league := rfl
    rw [List.map_cons, List.foldrM_cons, ih, Option.bind_eq_bind, Option.bind_some, gather, hkind]
    simp only [ofPage?_leaguePage]
    rfl

theorem foldrM_gather_countryPages (c : Country) (countries : List Country) :
    (s.countryPages c).foldrM gather ([], countries) = some ([], c.unplaced :: countries) := by
  have hkind : (s.countryPage c).kind = .country := rfl
  have hname : (s.countryPage c).json.textAt? "countryName" = some c.name := rfl
  rw [countryPages, List.foldrM_cons, foldrM_gather_leaguePages, Option.bind_eq_bind,
    Option.bind_some, gather, hkind]
  simp only [hname]
  rfl

theorem foldrM_gather_pages (cs : List Country) :
    (cs.flatMap s.countryPages).foldrM gather ([], []) = some ([], cs.map Country.unplaced) := by
  induction cs with
  | nil => rfl
  | cons c cs ih =>
    rw [List.flatMap_cons, List.foldrM_append, ih, Option.bind_eq_bind, Option.bind_some,
      foldrM_gather_countryPages, List.map_cons]

/-- **Reading the pages of a site gives its content.** -/
theorem ofPages?_pages : ofPages? s.pages = some s.content := by
  have hname : s.indexPage.json.textAt? "siteName" = some s.name := rfl
  rw [pages, ofPages?, hname, foldrM_gather_pages]
  rfl

/-! ### What is shown -/

theorem row_at (m : Match) (pos : Position) : (m.at pos).row = m.row := rfl

theorem leagueList_unplaced (c : Country) : c.unplaced.leagueList = c.leagueList := by
  rw [Country.leagueList, Country.leagueList, Country.unplaced, List.map_map]
  rfl

theorem countryList_content : s.content.countryList = s.countryList := by
  have hsummary (c : Country) : c.unplaced.summary = c.summary := by
    rw [Country.summary, leagueList_unplaced]
    rfl
  change Json.array ((s.countries.map Country.unplaced).map Country.summary) = _
  rw [List.map_map]
  exact congrArg Json.array (List.map_congr_left fun c _ => hsummary c)

theorem leaguePage_content (c : Country) (l : League) :
    s.content.leaguePage c.unplaced l.unplaced = s.leaguePage c l := by
  have hrows : l.unplaced.games.map Match.row = l.games.map Match.row :=
    (List.map_map ..).trans (List.map_congr_left fun m _ => row_at m {})
  rw [leaguePage, leaguePage, countryList_content, hrows]
  rfl

theorem countryPages_content (c : Country) :
    s.content.countryPages c.unplaced = s.countryPages c := by
  have hcountry : s.content.countryPage c.unplaced = s.countryPage c := by
    rw [countryPage, countryPage, countryList_content, leagueList_unplaced]
    rfl
  have hleagues : c.unplaced.leagues.map (s.content.leaguePage c.unplaced) =
      c.leagues.map (s.leaguePage c) :=
    (List.map_map ..).trans (List.map_congr_left fun l _ => s.leaguePage_content c l)
  rw [countryPages, hcountry, hleagues, countryPages]

/-- Positions and the navigation block leave no trace in the pages. -/
theorem pages_content : s.content.pages = s.pages := by
  have hindex : s.content.indexPage = s.indexPage := by
    rw [indexPage, countryList_content]
    rfl
  have hcountries : s.content.countries.flatMap s.content.countryPages =
      s.countries.flatMap s.countryPages :=
    List.flatMap_map .. |>.trans (List.flatMap_congr fun c _ => s.countryPages_content c)
  rw [pages, hindex, hcountries, pages]

/-! ### The pages of leagues -/

/-- The pages of leagues, in page order. -/
def leaguePages : List Page :=
  s.pages.filter (·.kind = .league)

theorem leaguePages_eq :
    s.leaguePages = s.countries.flatMap fun c => c.leagues.map (s.leaguePage c) := by
  have hcountry (c : Country) :
      (s.countryPages c).filter (·.kind = .league) = c.leagues.map (s.leaguePage c) := by
    rw [countryPages, List.filter_cons_of_neg (by simp [countryPage]), List.filter_eq_self]
    intro p hp
    obtain ⟨l, -, rfl⟩ := List.mem_map.1 hp
    rfl
  rw [leaguePages, pages, List.filter_cons_of_neg (by simp [indexPage]), List.filter_flatMap]
  exact List.flatMap_congr fun c _ => hcountry c

/-- The pages of leagues show the matches of the site in document order, each once. -/
theorem flatMap_rows_leaguePages : s.leaguePages.flatMap Page.rows = s.games.map Match.row := by
  rw [leaguePages_eq, games, leagues, List.flatMap_assoc, List.flatMap_assoc, List.map_flatMap]
  refine List.flatMap_congr fun c _ => ?_
  rw [List.flatMap_map, List.map_flatMap]
  rfl

/-- **Two sites have the same pages exactly when they have the same content**, whatever their
positions and navigation blocks are.  The rows of the pages of leagues, page after page, are those
of the matches in document order, and each row shows all fields of its match. -/
theorem pages_eq_pages_iff (s t : Site) :
    (s.pages = t.pages ↔ s.content = t.content) ∧
      (s.leaguePages.flatMap Page.rows).map Match.ofRow? = s.games.map (fun m => some (m.at {})) ∧
      (s.leaguePages.flatMap Page.rows).length = s.totalMatches := by
  refine ⟨⟨fun h => ?_, fun h => ?_⟩, ?_, ?_⟩
  · have hread : ofPages? s.pages = ofPages? t.pages := congrArg ofPages? h
    rw [ofPages?_pages, ofPages?_pages] at hread
    exact Option.some.inj hread
  · calc s.pages = s.content.pages := s.pages_content.symm
      _ = t.content.pages := congrArg pages h
      _ = t.pages := t.pages_content
  · rw [flatMap_rows_leaguePages, List.map_map]
    exact List.map_congr_left fun m _ => Match.ofRow?_row m
  · rw [flatMap_rows_leaguePages, List.length_map, length_games]

end Site

end Matchday
