import Matchday.Document.Basic

/-!
# The built-in site

A small site to publish when no fixtures are to be had.

## Main definitions

* `Site.sample`: the built-in site under a given name.
-/

namespace Matchday.Site

/-- A country with one league of one match. -/
def sampleCountry (name league : String) (m : Match) : Country where
  name
  leagues := [{ name := league, season := "2025-2026", games := [m] }]

/-- The first country of the built-in site. -/
def sampleGermany : Country :=
  sampleCountry "Germany" "Bundesliga" {
    date := "2026-02-15"
    time := "15:30"
    homeTeam := "Bayern München"
    homeCity := "Munich"
    awayTeam := "Borussia Dortmund"
    awayCity := "Dortmund"
    homeScore := 2
    awayScore := 1
    stadium := "Allianz Arena" }

/-- The second country of the built-in site. -/
def sampleEngland : Country :=
  sampleCountry "England" "PremierLeague" {
    date := "2026-02-15"
    time := "15:00"
    homeTeam := "Arsenal"
    homeCity := "London"
    awayTeam := "Manchester City"
    awayCity := "Manchester"
    homeScore := 1
    awayScore := 1
    stadium := "Emirates Stadium" }

/-- The third country of the built-in site. -/
def sampleSpain : Country :=
  sampleCountry "Spain" "LaLiga" {
    date := "2026-02-15"
    time := "21:00"
    homeTeam := "Real Madrid"
    homeCity := "Madrid"
    awayTeam := "FC Barcelona"
    awayCity := "Barcelona"
    homeScore := 3
    awayScore := 2
    stadium := "Santiago Bernabéu" }

/-- The built-in site under a given name. -/
def sample (name : String) : Site :=
  ofCountries name [sampleGermany, sampleEngland, sampleSpain]

end Matchday.Site
