import Matchday.Rule.Diagnostic
import Matchday.Rule.Shape
import Matchday.Text.Blank

/-!
# Rules for a match

## Main definitions

* `MatchRule`: the rules that look at one match.
* `MatchRule.check`: what a rule has to say about a match.
-/

namespace Matchday

/-- A rule that looks at one match. -/
inductive MatchRule where
  | distinctTeams
  | dateFormat
  | timeFormat
  | fieldsNotEmpty
  | stadiumMinLength
  | scoreNonNegative
  | scoreUpperBound
  | cityNotBlank
  | kickoffGranularity
deriving DecidableEq, Repr

namespace MatchRule

/-- The code of a rule about matches. -/
def code : MatchRule → RuleCode
  | distinctTeams => ⟨3⟩
  | dateFormat => ⟨6⟩
  | timeFormat => ⟨7⟩
  | fieldsNotEmpty => ⟨8⟩
  | stadiumMinLength => ⟨14⟩
  | scoreNonNegative => ⟨19⟩
  | scoreUpperBound => ⟨20⟩
  | cityNotBlank => ⟨23⟩
  | kickoffGranularity => ⟨25⟩

/-- The name of a rule about matches. -/
def name : MatchRule → String
  | distinctTeams => "distinct-teams"
  | dateFormat => "date-format"
  | timeFormat => "time-format"
  | fieldsNotEmpty => "fields-not-empty"
  | stadiumMinLength => "stadium-min-length"
  | scoreNonNegative => "score-non-negative"
  | scoreUpperBound => "score-upper-bound"
  | cityNotBlank => "city-not-blank"
  | kickoffGranularity => "kickoff-granularity"

/-- The shortest stadium name, blanks at its ends left aside. -/
def minStadiumLength : Nat := 3

/-- The highest score of one side. -/
def maxScore : Int32 := 99

/-- The text fields of a match that must not be empty, in the order they are reported. -/
def namedFields (m : Match) : List (String × String) :=
  [("homeTeam", m.homeTeam), ("awayTeam", m.awayTeam), ("homeCity", m.homeCity),
    ("awayCity", m.awayCity), ("stadium", m.stadium)]

/-- The cities of a match, each with the name that messages have for it. -/
def namedCities (m : Match) : List (String × String) :=
  [("homeCity", m.homeCity), ("awayCity", m.awayCity)]

/-- Minutes at which a match may start. -/
def isKickoffMinute (minutes : Nat) : Bool :=
  minutes % 15 == 0 && minutes < 60

/-- What a rule says about a match; one text for each violation. -/
def complaints (m : Match) : MatchRule → List String
  | distinctTeams =>
    if Text.foldCase m.homeTeam = Text.foldCase m.awayTeam then
      [s!"Match at {m.pos.text} has identical home and away team '{m.homeTeam}'."]
    else []
  | dateFormat =>
    if (Shape.dateYear? m.date).isNone then
      [s!"Invalid date format '{m.date}' in match at {m.pos.text}. Expected YYYY-MM-DD."]
    else []
  | timeFormat =>
    if !Shape.isTimeOfDay m.time then
      [s!"Invalid time format '{m.time}' in match at {m.pos.text}. Expected HH:MM (00:00 - 23:59)."]
    else []
  | fieldsNotEmpty =>
    ((namedFields m).filter fun (_, value) => value.isEmpty).map fun (field, _) =>
      s!"Empty '{field}' in match at {m.pos.text}. All match fields must be non-empty."
  | stadiumMinLength =>
    if (Text.trimWhile Text.isBlank m.stadium.toList).length < minStadiumLength then
      [s!"Stadium name '{m.stadium}' in match at {m.pos.text} is too short " ++
        s!"(minimum {minStadiumLength} characters)."]
    else []
  | scoreNonNegative =>
    ([("home", m.homeScore), ("away", m.awayScore)].filter fun (_, score) => score < 0).map
      fun (side, score) =>
        s!"Negative {side} score ({score.toInt}) in match at {m.pos.text}. " ++
          "Scores must be non-negative."
  | scoreUpperBound =>
    ([("Home", m.homeScore), ("Away", m.awayScore)].filter fun (_, score) => maxScore < score).map
      fun (side, score) =>
        s!"{side} score ({score.toInt}) exceeds maximum {maxScore.toInt} in match at {m.pos.text}."
  | cityNotBlank =>
    ((namedCities m).filter fun (_, city) => !city.isEmpty && Text.isAllBlank city).map
      fun (field, _) =>
        s!"Field '{field}' in match at {m.pos.text} contains only whitespace. " ++
          "City names must not be blank."
  | kickoffGranularity =>
    match Shape.clock? m.time with
    | some (_, minutes) =>
      if isKickoffMinute minutes then []
      else
        [s!"Match time '{m.time}' at {m.pos.text} has non-standard minute granularity. " ++
          "Expected minutes to be 00, 15, 30, or 45."]
    | none => []

/-- The violations of a rule by a match, all at the position of the match. -/
def check (r : MatchRule) (m : Match) : List Diagnostic :=
  (complaints m r).map fun message => ⟨r.code, message, m.pos⟩

/-- The rule as one of a set of rules. -/
def asRule (r : MatchRule) : NodeRule Match where
  code := r.code
  name := r.name
  check := r.check

end MatchRule

end Matchday
