import Matchday.Json.Record
import Matchday.Fixture.Basic
import Matchday.Table

/-!
# The provider's answers

The provider answers with an envelope that holds errors or a list of items, one for each fixture.

## Main definitions

* `Feed.Envelope`, `Feed.Item`: an answer and an item of it.
* `Feed.Envelope.ofText`: the envelope in the body of a response.
* `Feed.Envelope.hasErrors`: whether the provider reports errors.
* `Feed.Item.fixture`: the fixture that an item tells about.
-/

namespace Matchday.Feed

open Json (Field Record Reader)

/-! ### Items -/

/-- A team of an item. -/
structure Team where
  name : Option String := none
deriving Repr, Inhabited

/-- The two teams of an item. -/
structure Teams where
  home : Team
  away : Team
deriving Repr, Inhabited

/-- The place of an item. -/
structure Venue where
  name : Option String := none
  city : Option String := none
deriving Repr, Inhabited

/-- When and where an item takes place. -/
structure Info where
  date : Option String := none
  venue : Venue := {}
deriving Repr, Inhabited

/-- The goals of an item; those of each side may be missing. -/
structure Goals where
  home : Option Int32 := none
  away : Option Int32 := none
deriving Repr, Inhabited

/-- What an answer tells about one fixture. -/
structure Item where
  info : Info
  teams : Teams
  goals : Goals := {}
deriving Repr, Inhabited

/-- An answer of the provider. -/
structure Envelope where
  errors : Json := .null
  items : List Item := []
deriving Repr, Inhabited

/-! ### Reading -/

namespace Team

/-- The members of a team, as far as they are there. -/
structure Draft where
  name : Option (Option String) := none

/-- How a team is written. -/
def record : Record Draft Team where
  name := "Team"
  fields := [
    .of "name" (·.name) (fun d x => { d with name := some x }) (Json.orNull Json.string) false]
  blank := {}
  build := fun d => .ok { name := d.name.join }

end Team

namespace Teams

/-- The members of the teams, as far as they are there. -/
structure Draft where
  home : Option Team := none
  away : Option Team := none

/-- How the teams are written. -/
def record : Record Draft Teams where
  name := "Teams"
  fields := [
    .of "home" (·.home) (fun d x => { d with home := some x }) Team.record.read false,
    .of "away" (·.away) (fun d x => { d with away := some x }) Team.record.read false]
  blank := {}
  build := fun d => do
    return { home := ← Json.require "home" d.home, away := ← Json.require "away" d.away }

end Teams

namespace Venue

/-- The members of a venue, as far as they are there. -/
structure Draft where
  name : Option (Option String) := none
  city : Option (Option String) := none

/-- How a venue is written. -/
def record : Record Draft Venue where
  name := "Venue"
  fields := [
    .of "name" (·.name) (fun d x => { d with name := some x }) (Json.orNull Json.string) false,
    .of "city" (·.city) (fun d x => { d with city := some x }) (Json.orNull Json.string) false]
  blank := {}
  build := fun d => .ok { name := d.name.join, city := d.city.join }

end Venue

namespace Info

/-- The members about time and place, as far as they are there. -/
structure Draft where
  date : Option (Option String) := none
  venue : Option Venue := none

/-- How time and place are written. -/
def record : Record Draft Info where
  name := "FixtureInfo"
  fields := [
    .of "date" (·.date) (fun d x => { d with date := some x }) (Json.orNull Json.string) false,
    .of "venue" (·.venue) (fun d x => { d with venue := some x }) Venue.record.read true]
  blank := {}
  build := fun d => .ok { date := d.date.join, venue := d.venue.getD {} }

end Info

namespace Goals

/-- The members of the goals, as far as they are there. -/
structure Draft where
  home : Option (Option Int32) := none
  away : Option (Option Int32) := none

/-- How the goals are written. -/
def record : Record Draft Goals where
  name := "Goals"
  fields := [
    .of "home" (·.home) (fun d x => { d with home := some x }) (Json.orNull Json.int32) false,
    .of "away" (·.away) (fun d x => { d with away := some x }) (Json.orNull Json.int32) false]
  blank := {}
  build := fun d => .ok { home := d.home.join, away := d.away.join }

end Goals

namespace Item

/-- The members of an item, as far as they are there. -/
structure Draft where
  info : Option Info := none
  teams : Option Teams := none
  goals : Option Goals := none

/-- How an item is written. -/
def record : Record Draft Item where
  name := "ApiFixture"
  fields := [
    .of "fixture" (·.info) (fun d x => { d with info := some x }) Info.record.read false,
    .of "teams" (·.teams) (fun d x => { d with teams := some x }) Teams.record.read false,
    .of "goals" (·.goals) (fun d x => { d with goals := some x }) Goals.record.read true]
  blank := {}
  build := fun d => do
    return {
      info := ← Json.require "fixture" d.info
      teams := ← Json.require "teams" d.teams
      goals := d.goals.getD {} }

end Item

namespace Envelope

/-- The members of an envelope, as far as they are there. -/
structure Draft where
  errors : Option Json := none
  items : Option (List Item) := none

/-- How an envelope is written. -/
def record : Record Draft Envelope where
  name := "Envelope"
  fields := [
    .of "errors" (·.errors) (fun d x => { d with errors := some x })
      (Json.value (Json.maxDepth - 1)) true,
    .of "response" (·.items) (fun d x => { d with items := some x })
      (Json.list Item.record.read) true]
  blank := {}
  build := fun d => .ok { errors := d.errors.getD .null, items := d.items.getD [] }

/-- The envelope in the body of a response. -/
def ofText (body : String) : Except Json.ReadError Envelope :=
  Json.document record.read (.ofString body)

/-- Whether the provider reports errors; nothing, an empty list and an empty object are none. -/
def hasErrors (e : Envelope) : Bool :=
  match e.errors with
  | .null => false
  | .array items => !items.isEmpty
  | .object members => !members.isEmpty
  | _ => true

end Envelope

/-! ### Fixtures -/

/-- The score of an item, unless neither side has one. -/
def Goals.score? (g : Goals) : Option Fixture.Score :=
  if g.home.isNone && g.away.isNone then none else some { home := g.home, away := g.away }

/-- The fixture that an item tells about.  The city of the venue is the city of the home team; the
other city comes from a table. -/
def Item.fixture (teamCities : Table String) (i : Item) : Fixture where
  date := i.info.date
  homeTeam := some { name := i.teams.home.name, city := i.info.venue.city }
  awayTeam := some { name := i.teams.away.name, city := i.teams.away.name.bind teamCities.get? }
  score := i.goals.score?
  venue := some { name := i.info.venue.name }

end Matchday.Feed
