import Matchday.Rule.Diagnostic
import Matchday.Rule.Shape

/-!
# Rules for a league

## Main definitions

* `LeagueRule`: the rules that look at one league and its matches.
* `LeagueRule.check`: the violations of a rule by a league.
-/

namespace Matchday

/-- A rule that looks at one league. -/
inductive LeagueRule where
  | nameStartsUppercase
  | seasonFormat
  | matchDateWithinSeason
  | hasMatches
  | uniqueMatches
  | nameLength
  | seasonYearsConsecutive
  | maxMatches
deriving DecidableEq, Repr

namespace LeagueRule

/-- The code of a rule about leagues. -/
def code : LeagueRule → RuleCode
  | nameStartsUppercase => ⟨2⟩
  | seasonFormat => ⟨9⟩
  | matchDateWithinSeason => ⟨13⟩
  | hasMatches => ⟨16⟩
  | uniqueMatches => ⟨17⟩
  | nameLength => ⟨22⟩
  | seasonYearsConsecutive => ⟨24⟩
  | maxMatches => ⟨27⟩

/-- The name of a rule about leagues. -/
def name : LeagueRule → String
  | nameStartsUppercase => "league-name-starts-uppercase"
  | seasonFormat => "season-format"
  | matchDateWithinSeason => "match-date-within-season"
  | hasMatches => "league-has-matches"
  | uniqueMatches => "unique-matches-per-league"
  | nameLength => "league-name-length"
  | seasonYearsConsecutive => "season-years-consecutive"
  | maxMatches => "max-matches-per-league"

/-- The longest name, in characters. -/
def maxNameLength : Nat := 40

/-- The most matches of a season: twenty teams, 38 rounds of ten games. -/
def maxGames : Nat := 380

/-- Two matches of a league are the same match when date, time and both teams agree. -/
def gameKey (m : Match) : String × String × String × String :=
  (m.date, m.time, m.homeTeam, m.awayTeam)

/-- Whether the year of a match lies outside a season.  A match without a year does not. -/
def isOutside (years : Nat × Nat) (m : Match) : Bool :=
  match Shape.dateYear? m.date with
  | some year => year < years.1 || years.2 < year
  | none => false

/-- What a rule reports, position and text. -/
def findings (l : League) : LeagueRule → List (Position × String)
  | nameStartsUppercase =>
    if Shape.startsOtherwise l.name then
      [(l.pos, s!"League name '{l.name}' at {l.pos.text} does not start with an uppercase letter.")]
    else []
  | seasonFormat =>
    if (Shape.seasonYears? l.season).isNone then
      [(l.pos, s!"Invalid season format '{l.season}' in league '{l.name}' at {l.pos.text}. " ++
        "Expected YYYY-YYYY.")]
    else []
  | matchDateWithinSeason =>
    match Shape.seasonYears? l.season with
    | some years =>
      (l.games.filter (isOutside years)).map fun m =>
        (m.pos, s!"Match date '{m.date}' at {m.pos.text} is outside season '{l.season}' " ++
          s!"in league '{l.name}'.")
    | none => []
  | hasMatches =>
    if l.games.isEmpty then
      [(l.pos, s!"League '{l.name}' at {l.pos.text} has no matches. " ++
        "Each league must contain at least one match.")]
    else []
  | uniqueMatches =>
    (Shape.repeats gameKey l.games).map fun m =>
      (m.pos, s!"Duplicate match (date='{m.date}', time='{m.time}', home='{m.homeTeam}', " ++
        s!"away='{m.awayTeam}') in league '{l.name}' at {m.pos.text}.")
  | nameLength =>
    let length := l.name.toList.length
    if maxNameLength < length then
      [(l.pos, s!"League name '{Shape.truncate 20 l.name}...' at {l.pos.text} is {length} " ++
        s!"characters long (maximum {maxNameLength}).")]
    else []
  | seasonYearsConsecutive =>
    match Shape.seasonYears? l.season with
    | some (first, last) =>
      if last ≠ first + 1 then
        [(l.pos, s!"Season '{l.season}' in league '{l.name}' at {l.pos.text} does not have " ++
          s!"consecutive years (expected {first}-{first + 1}).")]
      else []
    | none => []
  | maxMatches =>
    let count := l.games.length
    if maxGames < count then
      [(l.pos, s!"League '{l.name}' at {l.pos.text} has {count} matches (maximum {maxGames}).")]
    else []

/-- The violations of a rule by a league.  Rules about one of its matches point at the match. -/
def check (r : LeagueRule) (l : League) : List Diagnostic :=
  (findings l r).map fun (pos, message) => ⟨r.code, message, pos⟩

/-- The rule as one of a set of rules. -/
def asRule (r : LeagueRule) : NodeRule League where
  code := r.code
  name := r.name
  check := r.check

end LeagueRule

end Matchday
