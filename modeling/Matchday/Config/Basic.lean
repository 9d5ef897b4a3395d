import Matchday.Table

/-!
# Settings

The settings of a refresh run.

## Main definitions

* `Config`: the settings.
* `Config.seasonLabel`: the season as documents write it.
* `Config.leaguesRequested`: the number of leagues to fetch.
-/

namespace Matchday

/-- A league that is fetched. -/
structure LeagueSetting where
  name : String
  /-- How the provider calls the league. -/
  id : String
deriving DecidableEq, Repr, Inhabited

/-- A country with the leagues that are fetched for it. -/
structure CountrySetting where
  name : String
  code : String
  leagues : List LeagueSetting
deriving DecidableEq, Repr, Inhabited

/-- Settings for the site as a whole. -/
structure SiteSettings where
  name : String
deriving DecidableEq, Repr, Inhabited

/-- Settings for the provider. -/
structure ApiSettings where
  baseUrl : String
  apiKey : String
  timeoutSeconds : Option UInt64 := none
  /-- The provider tells the city of the home team only; the other is looked up here. -/
  teamCities : Table String := .empty
deriving DecidableEq, Repr, Inhabited

/-- Settings for what is fetched, and for how much of it a site needs. -/
structure FetchSettings where
  /-- The year in which the season starts. -/
  season : Int32
  /-- The share of leagues that must be fetched for a site to be published. -/
  minSuccessRate : Float := 0.5
  /-- Whether the built-in site is published when no league is fetched. -/
  fallbackToSample : Bool := false
  countries : List CountrySetting
deriving Repr, Inhabited

/-- Settings for where a site is written. -/
structure OutputSettings where
  path : String
  siteDir : String := "site"
  modelFile : Option String := none
deriving DecidableEq, Repr, Inhabited

/-- Settings for what is told about a run. -/
structure MonitoringSettings where
  enabled : Bool
deriving DecidableEq, Repr, Inhabited

/-- The settings of a run. -/
structure Config where
  site : SiteSettings
  api : ApiSettings
  fetch : FetchSettings
  output : OutputSettings
  monitoring : Option MonitoringSettings := none
deriving Repr, Inhabited

namespace Config

/-- The season as documents write it, `YYYY-YYYY`.  The next year is a number of 32 bits as well: it
follows the greatest one by starting again at the least. -/
def seasonLabel (c : Config) : String :=
  c.fetch.season.toInt.repr ++ "-" ++ (c.fetch.season + 1).toInt.repr

/-- The number of leagues that a run asks for. -/
def leaguesRequested (c : Config) : Nat :=
  (c.fetch.countries.flatMap (·.leagues)).length

/-- Whether the stages of a run are timed. -/
def monitoringEnabled (c : Config) : Bool :=
  (c.monitoring.map (·.enabled)).getD false

end Config

end Matchday
