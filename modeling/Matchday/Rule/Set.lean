import Matchday.Rule.Country
import Matchday.Rule.League
import Matchday.Rule.Match
import Matchday.Rule.Site

/-!
# Sets of rules

A rule set keeps its rules apart by the kind of node they look at, each kind in the order of
registration, and runs them over a site in one walk of the tree: first the site and its
navigation, then each country, within it each league, within it each match.  No rule stops
another.

## Main definitions

* `Rule`: one of the 27 usual rules, of any kind.
* `RuleSet`: rules by kind.
* `RuleSet.ofList`, `RuleSet.standard`: sets of usual rules, and the set of all of them.
* `RuleSet.evaluate`: all violations by a site.
* `RuleSet.registered`: code and name of each rule, in ascending order.
-/

namespace Matchday

/-- One of the usual rules, of any kind. -/
inductive Rule where
  | site (rule : SiteRule)
  | navigation (rule : NavigationRule)
  | country (rule : CountryRule)
  | league (rule : LeagueRule)
  | game (rule : MatchRule)
deriving DecidableEq, Repr

namespace Rule

/-- The code of a rule. -/
def code : Rule → RuleCode
  | site r => r.code
  | navigation r => r.code
  | country r => r.code
  | league r => r.code
  | game r => r.code

/-- The name of a rule. -/
def name : Rule → String
  | site r => r.name
  | navigation r => r.name
  | country r => r.name
  | league r => r.name
  | game r => r.name

/-- The usual rules in their order of registration. -/
def standard : List Rule :=
  [.site .uniqueCountryNames, .league .nameStartsUppercase, .game .distinctTeams,
    .site .navigationTargetsExist, .country .uniqueLeagueNames, .game .dateFormat,
    .game .timeFormat, .game .fieldsNotEmpty, .league .seasonFormat,
    .navigation .noDuplicateItems, .country .nameStartsUppercase,
    .site .countriesListedInNavigation, .league .matchDateWithinSeason, .game .stadiumMinLength,
    .country .hasLeagues, .league .hasMatches, .league .uniqueMatches, .navigation .notEmpty,
    .game .scoreNonNegative, .game .scoreUpperBound, .country .nameLength, .league .nameLength,
    .game .cityNotBlank, .league .seasonYearsConsecutive, .game .kickoffGranularity,
    .country .consistentSeason, .league .maxMatches]

/-- The usual rule with a given name. -/
def ofName? (name : String) : Option Rule :=
  standard.find? fun r => r.name == name

end Rule

/-- Rules by the kind of node they look at.  They need not be among the usual ones. -/
structure RuleSet where
  site : List (NodeRule Site) := []
  navigation : List (NodeRule Navigation) := []
  country : List (NodeRule Country) := []
  league : List (NodeRule League) := []
  game : List (NodeRule Match) := []
deriving Inhabited

namespace RuleSet

/-- No rules. -/
def empty : RuleSet := {}

/-- Registers one of the usual rules behind the rules of its kind. -/
def register (rules : RuleSet) : Rule → RuleSet
  | .site r => { rules with site := rules.site ++ [r.asRule] }
  | .navigation r => { rules with navigation := rules.navigation ++ [r.asRule] }
  | .country r => { rules with country := rules.country ++ [r.asRule] }
  | .league r => { rules with league := rules.league ++ [r.asRule] }
  | .game r => { rules with game := rules.game ++ [r.asRule] }

/-- Registers some of the usual rules one after another. -/
def ofList (rules : List Rule) : RuleSet :=
  rules.foldl register empty

/-- The 27 usual rules. -/
def standard : RuleSet :=
  ofList Rule.standard

/-- Code and name of each rule of a list. -/
def entriesOf {Node : Type} (rules : List (NodeRule Node)) : List (RuleCode × String) :=
  rules.map fun r => (r.code, r.name)

/-- Code and name of each rule, kind by kind. -/
def entries (rules : RuleSet) : List (RuleCode × String) :=
  entriesOf rules.site ++ entriesOf rules.navigation ++ entriesOf rules.country ++
    entriesOf rules.league ++ entriesOf rules.game

/-- The number of rules. -/
def size (rules : RuleSet) : Nat :=
  rules.entries.length

/-- Whether there are no rules. -/
def isEmpty (rules : RuleSet) : Bool :=
  rules.size == 0

/-- Pairs of a code and a name in ascending order. -/
def entryBefore (a b : RuleCode × String) : Bool :=
  a.1.number < b.1.number || (a.1 == b.1 && a.2 ≤ b.2)

/-- Code and name of each rule, in ascending order. -/
def registered (rules : RuleSet) : List (RuleCode × String) :=
  rules.entries.mergeSort entryBefore

/-- The violations by a match. -/
def checkMatch (rules : RuleSet) (m : Match) : List Diagnostic :=
  rules.game.flatMap (·.check m)

/-- The violations by a league, then those by its matches. -/
def checkLeague (rules : RuleSet) (l : League) : List Diagnostic :=
  rules.league.flatMap (·.check l) ++ l.games.flatMap rules.checkMatch

/-- The violations by a country, then those by its leagues. -/
def checkCountry (rules : RuleSet) (c : Country) : List Diagnostic :=
  rules.country.flatMap (·.check c) ++ c.leagues.flatMap rules.checkLeague

/-- All violations by a site, in the order of the walk. -/
def evaluate (rules : RuleSet) (s : Site) : List Diagnostic :=
  rules.site.flatMap (·.check s) ++ rules.navigation.flatMap (·.check s.navigation) ++
    s.countries.flatMap rules.checkCountry

end RuleSet

end Matchday
