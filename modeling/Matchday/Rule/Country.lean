import Matchday.Rule.Diagnostic
import Matchday.Rule.Shape

/-!
# Rules for a country

## Main definitions

* `CountryRule`: the rules that look at one country and its leagues.
* `CountryRule.check`: the violations of a rule by a country.
-/

namespace Matchday

/-- A rule that looks at one country. -/
inductive CountryRule where
  | uniqueLeagueNames
  | nameStartsUppercase
  | hasLeagues
  | nameLength
  | consistentSeason
deriving DecidableEq, Repr

namespace CountryRule

/-- The code of a rule about countries. -/
def code : CountryRule → RuleCode
  | uniqueLeagueNames => ⟨5⟩
  | nameStartsUppercase => ⟨11⟩
  | hasLeagues => ⟨15⟩
  | nameLength => ⟨21⟩
  | consistentSeason => ⟨26⟩

/-- The name of a rule about countries. -/
def name : CountryRule → String
  | uniqueLeagueNames => "unique-league-names"
  | nameStartsUppercase => "country-name-starts-uppercase"
  | hasLeagues => "country-has-leagues"
  | nameLength => "country-name-length"
  | consistentSeason => "consistent-season-within-country"

/-- The longest name, in characters. -/
def maxNameLength : Nat := 40

/-- The leagues whose season differs from that of the first league, with the season of the
first. -/
def strayLeagues (c : Country) : List (League × String) :=
  match c.leagues with
  | [] => []
  | first :: rest =>
    (rest.filter fun l => l.season ≠ first.season).map fun l => (l, first.season)

/-- What a rule reports, position and text. -/
def findings (c : Country) : CountryRule → List (Position × String)
  | uniqueLeagueNames =>
    (Shape.repeats (·.name) c.leagues).map fun l =>
      (l.pos, s!"Duplicate league name '{l.name}' in country '{c.name}' at {l.pos.text}.")
  | nameStartsUppercase =>
    if Shape.startsOtherwise c.name then
      [(c.pos, s!"Country name '{c.name}' at {c.pos.text} does not start with an uppercase letter.")]
    else []
  | hasLeagues =>
    if c.leagues.isEmpty then
      [(c.pos, s!"Country '{c.name}' at {c.pos.text} has no leagues. " ++
        "Each country must contain at least one league.")]
    else []
  | nameLength =>
    let length := c.name.toList.length
    if maxNameLength < length then
      [(c.pos, s!"Country name '{Shape.truncate 20 c.name}...' at {c.pos.text} is {length} " ++
        s!"characters long (maximum {maxNameLength}).")]
    else []
  | consistentSeason =>
    (strayLeagues c).map fun (l, season) =>
      (l.pos, s!"League '{l.name}' at {l.pos.text} has season '{l.season}' which differs from " ++
        s!"'{season}' used by other leagues in country '{c.name}'.")

/-- The violations of a rule by a country.  Rules about one of its leagues point at the league. -/
def check (r : CountryRule) (c : Country) : List Diagnostic :=
  (findings c r).map fun (pos, message) => ⟨r.code, message, pos⟩

/-- The rule as one of a set of rules. -/
def asRule (r : CountryRule) : NodeRule Country where
  code := r.code
  name := r.name
  check := r.check

end CountryRule

end Matchday
