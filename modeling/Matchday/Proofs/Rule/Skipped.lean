import Matchday.Proofs.Rule.Meaning

/-!
# What rules skip

Three rules go by a text that may not have the shape they need: by the years of a season, by the
years of a season and of a date, and by the minutes of a time.  Without that shape there is nothing
to judge, and the rule skips the league or the match.  Each shape is the business of another rule.
The rules about seasons and dates report exactly what is skipped; the rule about times reports more
than that, since a text may show hours and minutes that no day has.

## Main definitions

* `Verdict`: what a rule makes of a league or a match.
* `Verdict.ofReading`: the verdict by what was read from a text, if anything was.
* `League.judgeYears`, `League.judgeDates`, `Match.judgeMinutes`: the verdicts of the three rules.
* `League.SkipsReported`: what is skipped in a league is reported by another rule.

## Main results

* `LeagueRule.check_seasonYearsConsecutive_ne_nil_iff`, `LeagueRule.check_matchDateWithinSeason`,
  `MatchRule.check_kickoffGranularity_ne_nil_iff`: the three rules report what they judge to be
  wrong.
* `League.skipsReported`: every league has this property.
-/

namespace Matchday

/-- What a rule makes of a league or a match: it skips what it cannot judge, lets it pass or reports
it. -/
inductive Verdict where
  | skip
  | pass
  | report
deriving DecidableEq, Repr

namespace Verdict

variable {α : Type}

/-- The verdict on what was read from a text, if the text has the shape for it. -/
def ofReading (reading : Option α) (isWrong : α → Bool) : Verdict :=
  match reading with
  | none => .skip
  | some a => if isWrong a then .report else .pass

variable {reading : Option α} {isWrong : α → Bool}

theorem ofReading_eq_skip_iff : ofReading reading isWrong = .skip ↔ reading = none := by
  cases reading with
  | none => exact iff_of_true rfl rfl
  | some a => cases h : isWrong a <;> simp [ofReading, h]

theorem ofReading_eq_report_iff :
    ofReading reading isWrong = .report ↔ ∃ a, reading = some a ∧ isWrong a := by
  cases reading with
  | none => simp [ofReading]
  | some a => cases h : isWrong a <;> simp [ofReading, h]

end Verdict

/-! ### The verdicts -/

namespace Match

/-- The verdict on the year of a match in a season. -/
def judgeDate (years : Nat × Nat) (m : Match) : Verdict :=
  .ofReading (Shape.dateYear? m.date) fun year => year < years.1 || years.2 < year

/-- The verdict on the minutes of a match. -/
def judgeMinutes (m : Match) : Verdict :=
  .ofReading (Shape.clock? m.time) fun (_, minutes) => !MatchRule.isKickoffMinute minutes

variable {m : Match}

theorem judgeDate_eq_skip_iff {years : Nat × Nat} :
    m.judgeDate years = .skip ↔ MatchRule.dateFormat.check m ≠ [] := by
  rw [judgeDate, Verdict.ofReading_eq_skip_iff, ne_eq, MatchRule.check_eq_nil_iff, MatchRule.Holds,
    Option.eq_none_iff_forall_ne_some, not_exists]

theorem judgeDate_eq_report_iff {years : Nat × Nat} :
    m.judgeDate years = .report ↔ LeagueRule.isOutside years m := by
  rw [judgeDate, Verdict.ofReading_eq_report_iff, LeagueRule.isOutside]
  cases Shape.dateYear? m.date <;> simp

theorem judgeMinutes_eq_skip_iff : m.judgeMinutes = .skip ↔ Shape.clock? m.time = none :=
  Verdict.ofReading_eq_skip_iff

end Match

namespace League

/-- The verdict on the years of a season. -/
def judgeYears (l : League) : Verdict :=
  .ofReading (Shape.seasonYears? l.season) fun (first, last) => last ≠ first + 1

/-- The verdicts on the years of matches in the season of a league.  A league whose season has no
years is skipped before its matches. -/
def judgeDates (l : League) : Option (Match → Verdict) :=
  (Shape.seasonYears? l.season).map Match.judgeDate

variable {l : League}

theorem check_seasonFormat_ne_nil_iff :
    LeagueRule.seasonFormat.check l ≠ [] ↔ Shape.seasonYears? l.season = none := by
  rw [ne_eq, LeagueRule.check_eq_nil_iff, LeagueRule.Holds, Option.eq_none_iff_forall_ne_some,
    not_exists]

theorem judgeYears_eq_skip_iff : l.judgeYears = .skip ↔ LeagueRule.seasonFormat.check l ≠ [] := by
  rw [check_seasonFormat_ne_nil_iff, judgeYears, Verdict.ofReading_eq_skip_iff]

theorem judgeDates_eq_none_iff : l.judgeDates = none ↔ LeagueRule.seasonFormat.check l ≠ [] := by
  rw [check_seasonFormat_ne_nil_iff, judgeDates, Option.map_eq_none_iff]

end League

/-! ### Verdicts and reports -/

namespace LeagueRule

variable {l : League}

theorem check_seasonYearsConsecutive_ne_nil_iff :
    seasonYearsConsecutive.check l ≠ [] ↔ l.judgeYears = .report := by
  rw [ne_eq, check_eq_nil_iff, Holds, League.judgeYears, Verdict.ofReading_eq_report_iff]
  simp

/-- **The rule about dates reports the matches that it judges to be outside the season**, in order
and each at its own position. -/
theorem check_matchDateWithinSeason (l : League) : ∃ message : Match → String,
    matchDateWithinSeason.check l =
      (l.judgeDates.elim [] fun judge => l.games.filter (judge · = .report)).map fun m =>
        ⟨⟨13⟩, message m, m.pos⟩ := by
  rw [check, findings, League.judgeDates]
  cases Shape.seasonYears? l.season with
  | none => exact ⟨fun _ => "", rfl⟩
  | some years =>
    simp only [Option.map_some, Option.elim_some, Match.judgeDate_eq_report_iff,
      Bool.decide_eq_true]
    exact ⟨_, List.map_map⟩

end LeagueRule

theorem MatchRule.check_kickoffGranularity_ne_nil_iff {m : Match} :
    kickoffGranularity.check m ≠ [] ↔ m.judgeMinutes = .report := by
  rw [ne_eq, check_eq_nil_iff, Holds, Match.judgeMinutes, Verdict.ofReading_eq_report_iff]
  simp

/-! ### What is skipped -/

/-- A match in a season from `start` to `stop` with its verdict: it is skipped when its date is
reported for its shape, and else it is reported when the year of its date is outside. -/
structure Match.DateAccounted (start stop : Nat) (verdict : Verdict) (m : Match) : Prop where
  skip_iff : verdict = .skip ↔ MatchRule.dateFormat.check m ≠ []
  shape_iff : MatchRule.dateFormat.check m = [] ↔ ∃ year, Shape.IsDate year m.date
  report_iff : ∀ year, Shape.IsDate year m.date →
    (verdict = .report ↔ year < start ∨ stop < year)

theorem Match.dateAccounted (start stop : Nat) (m : Match) :
    m.DateAccounted start stop (m.judgeDate (start, stop)) where
  skip_iff := judgeDate_eq_skip_iff
  shape_iff := by
    rw [MatchRule.check_eq_nil_iff, MatchRule.Holds]
    exact exists_congr fun _ => Shape.dateYear?_eq_some_iff
  report_iff year h := by
    rw [judgeDate_eq_report_iff, LeagueRule.isOutside, Shape.dateYear?_eq_some_iff.2 h]
    simp

/-- A match with its time: it is skipped when the time does not show hours and minutes, which is
reported, and else it is reported for its minutes when the rule judges so. -/
structure Match.TimeAccounted (m : Match) : Prop where
  skip_iff : m.judgeMinutes = .skip ↔ ¬ ∃ hours minutes, Shape.IsClock hours minutes m.time
  format : m.judgeMinutes = .skip → MatchRule.timeFormat.check m ≠ []
  report_iff : MatchRule.kickoffGranularity.check m ≠ [] ↔ m.judgeMinutes = .report

theorem Match.timeAccounted (m : Match) : m.TimeAccounted where
  skip_iff := by rw [judgeMinutes_eq_skip_iff, Shape.clock?_eq_none_iff]
  format h hsilent := by
    have htime : Shape.isTimeOfDay m.time := MatchRule.check_eq_nil_iff.1 hsilent
    rw [Shape.isTimeOfDay, judgeMinutes_eq_skip_iff.1 h] at htime
    exact absurd htime Bool.false_ne_true
  report_iff := MatchRule.check_kickoffGranularity_ne_nil_iff

/-- What is skipped in a league is reported by the rules about the shapes of seasons, dates and
times, and what is not skipped is reported as it is judged. -/
structure League.SkipsReported (l : League) : Prop where
  shape_iff : LeagueRule.seasonFormat.check l = [] ↔
    ∃ start stop, Shape.IsSeason start stop l.season
  /-- The rule about following years skips the league when its season is reported for its shape. -/
  years_skip_iff : l.judgeYears = .skip ↔ LeagueRule.seasonFormat.check l ≠ []
  years_report_iff : LeagueRule.seasonYearsConsecutive.check l ≠ [] ↔ l.judgeYears = .report
  /-- So does the rule about dates. -/
  dates_skip_iff : l.judgeDates = none ↔ LeagueRule.seasonFormat.check l ≠ []
  dates_report : ∃ message : Match → String, LeagueRule.matchDateWithinSeason.check l =
    (l.judgeDates.elim [] fun judge => l.games.filter (judge · = .report)).map fun m =>
      ⟨⟨13⟩, message m, m.pos⟩
  /-- By the two years of a season each match is judged that is not reported for its date. -/
  dates : ∀ start stop, Shape.IsSeason start stop l.season →
    ∃ judge, l.judgeDates = some judge ∧ ∀ m ∈ l.games, m.DateAccounted start stop (judge m)
  times : ∀ m ∈ l.games, m.TimeAccounted

/-- **Every skip is accounted for.**  A league is skipped exactly when its season is reported, a
match of another league exactly when its date is reported, and a time that is skipped is reported
too. -/
theorem League.skipsReported (l : League) : l.SkipsReported where
  shape_iff := by
    rw [← not_iff_not, ← ne_eq, check_seasonFormat_ne_nil_iff, Shape.seasonYears?_eq_none_iff]
  years_skip_iff := judgeYears_eq_skip_iff
  years_report_iff := LeagueRule.check_seasonYearsConsecutive_ne_nil_iff
  dates_skip_iff := judgeDates_eq_none_iff
  dates_report := LeagueRule.check_matchDateWithinSeason l
  dates start stop h := by
    refine ⟨Match.judgeDate (start, stop), ?_, fun m _ => m.dateAccounted start stop⟩
    rw [judgeDates, Shape.seasonYears?_eq_some_iff.2 h, Option.map_some]
  times m _ := m.timeAccounted

end Matchday
