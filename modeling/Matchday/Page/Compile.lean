import Matchday.Page.Basic
import Matchday.Page.Slug
import Matchday.Rule.Set

/-!
# Compiling a site

A site becomes one index page, one page for each country and one for each league.  All of them
carry the same list of countries as navigation.  Positions and the navigation block of the
document leave no trace.

| path | kind | members |
|---|---|---|
| `/` | index | `siteName`, `countries` |
| `/country/` | country | also `countryName`, `countrySlug`, `leagues` |
| `/country/league/` | league | also `leagueName`, `leagueSlug`, `season`, `matches` |

## Main definitions

* `Site.pages`: the pages of a site, in order.
* `Site.pagesIfValid`: the same for a site without violations.

## Main results

* `Site.pages_length`: the number of pages.
-/

namespace Matchday

/-- The members of a league in lists of leagues. -/
def League.summary (l : League) : Json :=
  .object [("name", .text l.name), ("season", .text l.season), ("slug", .text (slug l.name))]

/-- A match as league pages show it. -/
def Match.row (m : Match) : Json :=
  .object [("awayCity", .text m.awayCity), ("awayScore", .int m.awayScore.toInt),
    ("awayTeam", .text m.awayTeam), ("date", .text m.date), ("homeCity", .text m.homeCity),
    ("homeScore", .int m.homeScore.toInt), ("homeTeam", .text m.homeTeam),
    ("stadium", .text m.stadium), ("time", .text m.time)]

namespace Country

/-- The list of the leagues of a country. -/
def leagueList (c : Country) : Json :=
  .array (c.leagues.map League.summary)

/-- A country as the navigation shows it. -/
def summary (c : Country) : Json :=
  .object [("leagues", c.leagueList), ("name", .text c.name), ("slug", .text (slug c.name))]

end Country

namespace Site

/-- The list of countries that all pages share. -/
def countryList (s : Site) : Json :=
  .array (s.countries.map Country.summary)

/-- The page that lists the countries. -/
def indexPage (s : Site) : Page where
  path := "/"
  kind := .index
  data := [("countries", s.countryList), ("siteName", .text s.name)]

/-- The page of a country, which lists its leagues. -/
def countryPage (s : Site) (c : Country) : Page where
  path := s!"/{slug c.name}/"
  kind := .country
  data := [("countries", s.countryList), ("countryName", .text c.name),
    ("countrySlug", .text (slug c.name)), ("leagues", c.leagueList), ("siteName", .text s.name)]

/-- The page of a league, which shows its matches. -/
def leaguePage (s : Site) (c : Country) (l : League) : Page where
  path := s!"/{slug c.name}/{slug l.name}/"
  kind := .league
  data := [("countries", s.countryList), ("countryName", .text c.name),
    ("countrySlug", .text (slug c.name)), ("leagueName", .text l.name),
    ("leagueSlug", .text (slug l.name)), ("matches", .array (l.games.map Match.row)),
    ("season", .text l.season), ("siteName", .text s.name)]

/-- The page of a country, then the pages of its leagues. -/
def countryPages (s : Site) (c : Country) : List Page :=
  s.countryPage c :: c.leagues.map (s.leaguePage c)

/-- The index page, then the pages of each country. -/
def pages (s : Site) : List Page :=
  s.indexPage :: s.countries.flatMap s.countryPages

/-- The pages of a site that the rules accept, otherwise what they report. -/
def pagesIfValid (rules : RuleSet) (s : Site) : Except (List Diagnostic) (List Page) :=
  match rules.evaluate s with
  | [] => .ok s.pages
  | diagnostics => .error diagnostics

theorem pages_length (s : Site) :
    s.pages.length = 1 + s.countries.length + s.leagues.length := by
  simp only [pages, leagues, List.length_cons, List.length_flatMap, countryPages, List.length_map]
  induction s.countries with
  | nil => rfl
  | cons c cs ih => simp only [List.map_cons, List.sum_cons, List.length_cons] at ih ⊢; omega

end Site

end Matchday
