import Matchday.Proofs.Rule.Meaning
import Matchday.Proofs.Text.Sigma

/-!
# Team names that differ in case

The rule against a team that plays itself compares the names character by character.  The lowercase
form of a whole name is the same but for the sigmas that end a word, so a team that plays its own
lowercase form is reported unless its name has such a sigma.

## Main results

* `MatchRule.check_distinctTeams_lowercase_iff`: when a team is reported that plays its lowercase
  form.
* `MatchRule.distinctTeams_passes_lowercase`: such a team can pass the rule.
-/

namespace Matchday.MatchRule

/-- **A team that plays its own lowercase form is reported** exactly when no capital sigma ends a
word of its name. -/
theorem check_distinctTeams_lowercase_iff {m : Match}
    (h : m.awayTeam = Text.lowercase m.homeTeam) :
    (∃ message, distinctTeams.check m = [⟨⟨3⟩, message, m.pos⟩]) ↔
      ¬ Text.HasFinalSigma m.homeTeam.toList := by
  rw [← Text.foldCase_eq_foldCase_lowercase_iff, ← h]
  constructor
  · rintro ⟨message, hmessage⟩
    by_contra hne
    have hsilent : distinctTeams.check m = [] := check_eq_nil_iff.2 hne
    rw [hsilent] at hmessage
    contradiction
  · intro heq
    exact ⟨_, by rw [check, complaints, if_pos heq]; rfl⟩

/-- A match between teams with two names. -/
def matchBetween (homeTeam awayTeam : String) : Match where
  date := "2026-02-15"
  time := "15:30"
  homeTeam
  homeCity := "Thessaloniki"
  awayTeam
  awayCity := "Thessaloniki"
  homeScore := 2
  awayScore := 1
  stadium := "Kleanthis Vikelidis"

/-- The first sigma comes before a sign that a word may hold, and a letter behind it. -/
theorem check_distinctTeams_lowercase_larissa :
    ∃ message, distinctTeams.check (matchBetween "Α.Σ.Α ΛΑΡΙΣΑ" "α.σ.α λαρισα") =
      [⟨⟨3⟩, message, {}⟩] :=
  have haway : "α.σ.α λαρισα" = Text.lowercase "Α.Σ.Α ΛΑΡΙΣΑ" := by decide +kernel
  have hsigma : ¬ Text.HasFinalSigma "Α.Σ.Α ΛΑΡΙΣΑ".toList := by decide +kernel
  (check_distinctTeams_lowercase_iff (m := matchBetween "Α.Σ.Α ΛΑΡΙΣΑ" "α.σ.α λαρισα") haway).2
    hsigma

/-- **A team that plays its own lowercase form can pass**: its name ends in a sigma. -/
theorem distinctTeams_passes_lowercase :
    ¬ ∀ m : Match, m.awayTeam = Text.lowercase m.homeTeam → distinctTeams.check m ≠ [] := by
  intro h
  have hpasses : distinctTeams.check (matchBetween "ΑΡΗΣ" "αρης") = [] := by decide +kernel
  exact h (matchBetween "ΑΡΗΣ" "αρης") (by decide +kernel) hpasses

end Matchday.MatchRule
