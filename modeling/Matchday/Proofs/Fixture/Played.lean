import Matchday.Fixture.Basic
import Matchday.Proofs.Text.Cut
import Mathlib.Data.List.Forall2

/-!
# Matches of fixtures

A fixture gives a match when both sides of the score, both names and a date are there.  The match
shows what the fixture tells, and nothing else.

## Main definitions

* `Fixture.isComplete`: whether a fixture gives a match.
* `Fixture.Shows`: a match that shows what a fixture tells.

## Main results

* `Fixture.playedMatches_shows`: the matches of fixtures are those of the complete ones, in order.
-/

namespace Matchday.Fixture

/-- Whether a time stamp begins with a date: ten bytes, the last of which ends a character. -/
def hasDate (stamp : String) : Bool :=
  String.Pos.Raw.isValid stamp ⟨10⟩

/-- Both sides of the score, both names and a date are there. -/
def isComplete (f : Fixture) : Bool :=
  (f.score.bind (·.home)).isSome && (f.score.bind (·.away)).isSome &&
    (f.homeTeam.bind (·.name)).isSome && (f.awayTeam.bind (·.name)).isSome && f.date.any hasDate

/-- A match shows what a fixture tells. -/
structure Shows (f : Fixture) (m : Match) : Prop where
  homeScore_eq : f.score.bind (·.home) = some m.homeScore
  awayScore_eq : f.score.bind (·.away) = some m.awayScore
  homeTeam_eq : f.homeTeam.bind (·.name) = some m.homeTeam
  awayTeam_eq : f.awayTeam.bind (·.name) = some m.awayTeam
  /-- The date begins the time stamp, from which the time is taken. -/
  date_eq : ∃ rest, f.date = some (m.date ++ rest) ∧ m.time = timeOf (m.date ++ rest)
  size_date : m.date.utf8ByteSize = 10
  homeCity_eq : m.homeCity = (f.homeTeam.bind (·.city)).getD ""
  awayCity_eq : m.awayCity = (f.awayTeam.bind (·.city)).getD ""
  stadium_eq : m.stadium = (f.venue.bind (·.name)).getD ""
  pos_eq : m.pos = {}

theorem dateOf?_eq_some_iff {stamp date : String} :
    dateOf? stamp = some date ↔ ∃ rest, stamp = date ++ rest ∧ date.utf8ByteSize = 10 := by
  rw [dateOf?, Text.slice?_eq_some_iff]
  constructor
  · rintro ⟨before, after, rfl, hbefore, hdate⟩
    rw [String.utf8ByteSize_eq_zero_iff] at hbefore
    subst hbefore
    exact ⟨after, by rw [String.empty_append], hdate⟩
  · rintro ⟨rest, rfl, hdate⟩
    exact ⟨"", rest, by rw [String.empty_append], rfl, hdate⟩

theorem isSome_dateOf? (stamp : String) : (dateOf? stamp).isSome = hasDate stamp :=
  Text.slice?_zero_isSome 10 stamp

/-- The match of a fixture shows what the fixture tells. -/
theorem shows_of_toMatch? {f : Fixture} {m : Match} (h : f.toMatch? = some m) : f.Shows m := by
  simp only [toMatch?, Option.bind_eq_bind, Option.bind_eq_some_iff, Option.pure_def,
    Option.some.injEq] at h
  obtain ⟨score, hscore, homeScore, hhomeScore, awayScore, hawayScore, home, hhome, away, haway,
    homeTeam, hhomeTeam, awayTeam, hawayTeam, stamp, hstamp, date, hdate, rfl⟩ := h
  obtain ⟨rest, rfl, hsize⟩ := dateOf?_eq_some_iff.1 hdate
  exact {
    homeScore_eq := by rw [hscore, Option.bind_some, hhomeScore]
    awayScore_eq := by rw [hscore, Option.bind_some, hawayScore]
    homeTeam_eq := by rw [hhome, Option.bind_some, hhomeTeam]
    awayTeam_eq := by rw [haway, Option.bind_some, hawayTeam]
    date_eq := ⟨rest, hstamp, rfl⟩
    size_date := hsize
    homeCity_eq := by rw [hhome, Option.bind_some]
    awayCity_eq := by rw [haway, Option.bind_some]
    stadium_eq := rfl
    pos_eq := rfl }

/-- A fixture gives a match exactly when it is complete. -/
theorem isSome_toMatch? (f : Fixture) : f.toMatch?.isSome = f.isComplete := by
  rw [Bool.eq_iff_iff, isComplete]
  simp only [Bool.and_eq_true, Option.isSome_iff_exists, Option.any_eq_true]
  constructor
  · rintro ⟨m, hm⟩
    have hshows := shows_of_toMatch? hm
    obtain ⟨rest, hdate, -⟩ := hshows.date_eq
    refine ⟨⟨⟨⟨⟨_, hshows.homeScore_eq⟩, _, hshows.awayScore_eq⟩, _, hshows.homeTeam_eq⟩, _,
      hshows.awayTeam_eq⟩, _, hdate, ?_⟩
    rw [← isSome_dateOf?, Option.isSome_iff_exists]
    exact ⟨m.date, dateOf?_eq_some_iff.2 ⟨rest, rfl, hshows.size_date⟩⟩
  · rintro ⟨⟨⟨⟨⟨homeScore, hhomeScore⟩, awayScore, hawayScore⟩, homeTeam, hhomeTeam⟩, awayTeam,
      hawayTeam⟩, stamp, hstamp, hdate⟩
    obtain ⟨score, hscore, hhomeScore⟩ := Option.bind_eq_some_iff.1 hhomeScore
    rw [hscore, Option.bind_some] at hawayScore
    obtain ⟨home, hhome, hhomeTeam⟩ := Option.bind_eq_some_iff.1 hhomeTeam
    obtain ⟨away, haway, hawayTeam⟩ := Option.bind_eq_some_iff.1 hawayTeam
    obtain ⟨date, hdate⟩ := Option.isSome_iff_exists.1 ((isSome_dateOf? stamp).trans hdate)
    simp [toMatch?, *]

/-- **The matches of fixtures are those of the complete ones, in order**, and each of them shows
what its fixture tells. -/
theorem playedMatches_shows (fixtures : List Fixture) :
    List.Forall₂ Shows (fixtures.filter isComplete) (playedMatches fixtures) := by
  induction fixtures with
  | nil => exact .nil
  | cons f fixtures ih =>
    rw [playedMatches, List.filterMap_cons, List.filter_cons, ← isSome_toMatch?]
    cases h : f.toMatch? with
    | none => exact ih
    | some m => exact .cons (shows_of_toMatch? h) ih

end Matchday.Fixture
