import Matchday.Config.Basic
import Matchday.Fixture.Client

/-!
# Fetching all leagues

Every configured league is asked for once, in the order of the configuration; one that fails does
not stop the rest.

## Main definitions

* `FetchedLeague`, `FetchedCountry`: a league and a country with the answers that came back.
* `fetchAll`: asks for all leagues of all countries.
* `FetchedCountry.site`: the site of what was fetched.
-/

namespace Matchday

/-- A league and the answer to the request for it. -/
structure FetchedLeague where
  setting : LeagueSetting
  answer : FixtureAnswer
deriving Inhabited

/-- A country and its leagues. -/
structure FetchedCountry where
  setting : CountrySetting
  leagues : List FetchedLeague
deriving Inhabited

section Fetch

variable {m : Type → Type} [Monad m]

/-- The request for a league. -/
def LeagueSetting.request (season : Int32) (country : CountrySetting) (league : LeagueSetting) :
    FixtureRequest where
  countryCode := country.code
  leagueId := league.id
  season := season.toInt.repr

/-- Asks for the fixtures of one league. -/
def fetchLeague (client : FixtureClient m) (season : Int32) (country : CountrySetting)
    (league : LeagueSetting) : m FetchedLeague := do
  return { setting := league, answer := ← client (league.request season country) }

/-- Asks for the fixtures of the leagues of a country, one after another. -/
def fetchCountry (client : FixtureClient m) (season : Int32) (country : CountrySetting) :
    m FetchedCountry := do
  return {
    setting := country
    leagues := ← country.leagues.mapM (fetchLeague client season country) }

/-- Asks for all leagues of all countries. -/
def fetchAll (client : FixtureClient m) (fetch : FetchSettings) : m (List FetchedCountry) :=
  fetch.countries.mapM (fetchCountry client fetch.season)

end Fetch

namespace FetchedLeague

/-- The played matches that came back. -/
def games (l : FetchedLeague) : List Match :=
  match l.answer.result with
  | .ok fixtures => Fixture.playedMatches fixtures
  | .error _ => []

/-- A league succeeds when a played match came back. -/
def succeeded (l : FetchedLeague) : Bool :=
  !l.games.isEmpty

/-- The error that came back, led in by country and league. -/
def error? (country : CountrySetting) (l : FetchedLeague) : Option String :=
  match l.answer.result with
  | .ok _ => none
  | .error e => some s!"{country.name}/{l.setting.name}: {e.message}"

/-- The league of the site that is made of what was fetched. -/
def league (season : String) (l : FetchedLeague) : League where
  name := l.setting.name
  season
  games := l.games

/-- What is logged about a league. -/
def log (country : CountrySetting) (l : FetchedLeague) : List LogLine :=
  l.answer.log ++
    [match l.answer.result with
      | .ok fixtures => ⟨.debug, s!"{country.name}/{l.setting.name}: {fixtures.length} fixture(s), {l.games.length} usable"⟩
      | .error e => ⟨.warning, s!"{country.name}/{l.setting.name} fetch failed: {e.message}"⟩]

end FetchedLeague

namespace FetchedCountry

/-- A country succeeds when one of its leagues does. -/
def succeeded (c : FetchedCountry) : Bool :=
  c.leagues.any FetchedLeague.succeeded

/-- The errors about the leagues of a country, in order. -/
def errors (c : FetchedCountry) : List String :=
  c.leagues.filterMap (FetchedLeague.error? c.setting)

/-- The country of the site that is made of what was fetched. -/
def country (season : String) (c : FetchedCountry) : Country where
  name := c.setting.name
  leagues := c.leagues.map (FetchedLeague.league season)

/-- What is logged about a country. -/
def log (c : FetchedCountry) : List LogLine :=
  c.leagues.flatMap (FetchedLeague.log c.setting)

/-- All leagues, country by country. -/
def allLeagues (cs : List FetchedCountry) : List FetchedLeague :=
  cs.flatMap (·.leagues)

/-- The number of leagues that succeeded. -/
def leaguesSucceeded (cs : List FetchedCountry) : Nat :=
  (allLeagues cs).countP FetchedLeague.succeeded

/-- The number of countries that succeeded. -/
def countriesSucceeded (cs : List FetchedCountry) : Nat :=
  cs.countP succeeded

/-- The number of matches that came back. -/
def totalMatches (cs : List FetchedCountry) : Nat :=
  ((allLeagues cs).flatMap (·.games)).length

/-- All errors, in the order of the requests. -/
def allErrors (cs : List FetchedCountry) : List String :=
  cs.flatMap errors

/-- The site of what was fetched: every configured country with every configured league. -/
def site (config : Config) (cs : List FetchedCountry) : Site :=
  .ofCountries config.site.name (cs.map (country config.seasonLabel))

end FetchedCountry

end Matchday
