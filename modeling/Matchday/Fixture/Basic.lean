import Matchday.Document.Basic
import Matchday.Text.Bytes

/-!
# Fixtures

A fixture is what a provider tells about one match; anything may be missing.  A played fixture
with teams and a date becomes a match.

## Main definitions

* `Fixture`: a fixture.
* `Fixture.toMatch?`: the match, when the fixture is played and complete.
* `Fixture.playedMatches`: the matches among some fixtures, in order.
-/

namespace Matchday

/-- A side of a fixture, as far as it is known. -/
structure Fixture.Team where
  name : Option String := none
  city : Option String := none
deriving DecidableEq, Repr, Inhabited

/-- The score of a fixture, as far as it is known. -/
structure Fixture.Score where
  home : Option Int32 := none
  away : Option Int32 := none
deriving DecidableEq, Repr, Inhabited

/-- The place of a fixture, as far as it is known. -/
structure Fixture.Venue where
  name : Option String := none
deriving DecidableEq, Repr, Inhabited

/-- What a provider tells about one match; anything may be missing. -/
structure Fixture where
  date : Option String := none
  homeTeam : Option Fixture.Team := none
  awayTeam : Option Fixture.Team := none
  score : Option Fixture.Score := none
  venue : Option Fixture.Venue := none
deriving DecidableEq, Repr, Inhabited

namespace Fixture

/-- The kick-off time where a time stamp shows none. -/
def unknownTime : String := "00:00"

/-- The date of a time stamp, its first ten bytes. -/
def dateOf? (stamp : String) : Option String :=
  Text.slice? 0 10 stamp

/-- The time of a time stamp, its bytes 11 to 16. -/
def timeOf (stamp : String) : String :=
  (Text.slice? 11 16 stamp).getD unknownTime

/-- The match that a fixture tells about.  There is none without both sides of the score, both
team names and a date. -/
def toMatch? (f : Fixture) : Option Match := do
  let score ← f.score
  let homeScore ← score.home
  let awayScore ← score.away
  let home ← f.homeTeam
  let away ← f.awayTeam
  let homeTeam ← home.name
  let awayTeam ← away.name
  let stamp ← f.date
  let date ← dateOf? stamp
  return {
    date
    time := timeOf stamp
    homeTeam
    homeCity := home.city.getD ""
    awayTeam
    awayCity := away.city.getD ""
    homeScore
    awayScore
    stadium := (f.venue.bind (·.name)).getD "" }

/-- The matches that some fixtures tell about. -/
def playedMatches (fixtures : List Fixture) : List Match :=
  fixtures.filterMap toMatch?

end Fixture

end Matchday
