import Matchday.Error
import Matchday.Fixture.Basic
import Matchday.Log

/-!
# Fixture clients

A client answers requests for the fixtures of a league in a season.

## Main definitions

* `FixtureRequest`, `FixtureAnswer`: a request, and what comes back.
* `FixtureClient`: answers requests, in any monad.
-/

namespace Matchday

/-- A request for the fixtures of a league in a season. -/
structure FixtureRequest where
  countryCode : String
  leagueId : String
  /-- The year in which the season starts. -/
  season : String
deriving DecidableEq, Repr, Inhabited

namespace FixtureRequest

/-- A request as messages show it. -/
def text (r : FixtureRequest) : String :=
  s!"league {r.leagueId} season {r.season} ({r.countryCode})"

end FixtureRequest

/-- The fixtures or why there are none, and what the client logs about it. -/
structure FixtureAnswer where
  result : Except SiteError (List Fixture)
  log : List LogLine := []
deriving Inhabited

/-- Answers requests for fixtures, in any monad. -/
def FixtureClient (m : Type → Type) := FixtureRequest → m FixtureAnswer

end Matchday
