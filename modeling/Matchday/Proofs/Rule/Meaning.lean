import Matchday.Proofs.Document.Content
import Matchday.Proofs.Rule.Shape
import Matchday.Proofs.Rule.Walk
import Mathlib.Data.List.Basic

/-!
# What the rules ask for

Each rule asks for a property of the node that it looks at, and it is silent exactly when the node
has this property.  A rule holds of a site when every node of its kind has the property that the
rule asks for.  So usual rules are silent about a site exactly when all of them hold of it, and each
violation carries the code of a rule that does not.

## Main definitions

* `SiteRule.Holds`, `NavigationRule.Holds`, `CountryRule.Holds`, `LeagueRule.Holds`,
  `MatchRule.Holds`: what a rule asks for.
* `Rule.Holds`: what a rule asks of a whole site.

## Main results

* `SiteRule.check_eq_nil_iff`, `NavigationRule.check_eq_nil_iff`, `CountryRule.check_eq_nil_iff`,
  `LeagueRule.check_eq_nil_iff`, `MatchRule.check_eq_nil_iff`: a rule is silent when its property
  holds.
* `RuleSet.evaluate_ofList_eq_nil_iff`: usual rules are silent when all of them hold.
* `RuleSet.exists_broken_of_mem_evaluate`: the broken rule behind a violation.
-/

namespace Matchday

/-! ### The site and its navigation -/

namespace SiteRule

/-- What a rule asks of a site. -/
def Holds (s : Site) : SiteRule → Prop
  | uniqueCountryNames => s.countryNames.Nodup
  | navigationTargetsExist => ∀ i ∈ s.navigation.items, i.name ∈ s.countryNames
  | countriesListedInNavigation => ∀ c ∈ s.countries, c.name ∈ s.navigation.items.map (·.name)

theorem check_eq_nil_iff {s : Site} {r : SiteRule} : r.check s = [] ↔ r.Holds s := by
  rw [check, List.map_eq_nil_iff]
  cases r with
  | uniqueCountryNames => simp [findings, Holds, Shape.repeats_eq_nil_iff, Site.countryNames]
  | navigationTargetsExist => simp [findings, Holds]
  | countriesListedInNavigation => simp [findings, Holds]

end SiteRule

namespace NavigationRule

/-- What a rule asks of a navigation block. -/
def Holds (n : Navigation) : NavigationRule → Prop
  | noDuplicateItems => (n.items.map (·.name)).Nodup
  | notEmpty => n.items ≠ []

theorem check_eq_nil_iff {n : Navigation} {r : NavigationRule} : r.check n = [] ↔ r.Holds n := by
  rw [check, List.map_eq_nil_iff]
  cases r with
  | noDuplicateItems => simp [findings, Holds, Shape.repeats_eq_nil_iff]
  | notEmpty => simp [findings, Holds]

end NavigationRule

/-! ### Countries -/

namespace CountryRule

/-- What a rule asks of a country. -/
def Holds (c : Country) : CountryRule → Prop
  | uniqueLeagueNames => (c.leagues.map (·.name)).Nodup
  | nameStartsUppercase => Shape.StartsUppercase c.name
  | hasLeagues => c.leagues ≠ []
  | nameLength => c.name.length ≤ maxNameLength
  | consistentSeason => ∀ l ∈ c.leagues, ∀ l' ∈ c.leagues, l.season = l'.season

/-- No league strays when all of them have one season. -/
theorem strayLeagues_eq_nil_iff {c : Country} :
    strayLeagues c = [] ↔ ∀ l ∈ c.leagues, ∀ l' ∈ c.leagues, l.season = l'.season := by
  rw [strayLeagues]
  cases c.leagues with
  | nil => simp
  | cons first rest =>
    simp only [List.map_eq_nil_iff, List.filter_eq_nil_iff, decide_eq_true_eq, not_not]
    constructor
    · intro h
      have hfirst : ∀ l ∈ first :: rest, l.season = first.season :=
        List.forall_mem_cons.2 ⟨rfl, h⟩
      intro l hl l' hl'
      rw [hfirst l hl, hfirst l' hl']
    · intro h l hl
      exact h l (List.mem_cons_of_mem _ hl) first List.mem_cons_self

theorem check_eq_nil_iff {c : Country} {r : CountryRule} : r.check c = [] ↔ r.Holds c := by
  rw [check, List.map_eq_nil_iff]
  cases r with
  | uniqueLeagueNames => simp [findings, Holds, Shape.repeats_eq_nil_iff]
  | nameStartsUppercase => simp [findings, Holds, Shape.startsOtherwise_eq_false_iff]
  | hasLeagues => simp [findings, Holds]
  | nameLength => simp [findings, Holds, String.length_toList]
  | consistentSeason => simp [findings, Holds, strayLeagues_eq_nil_iff]

end CountryRule

/-! ### Leagues -/

namespace LeagueRule

/-- What a rule asks of a league.  A season that is not written as one is the business of one rule
only, and so is a match without a date. -/
def Holds (l : League) : LeagueRule → Prop
  | nameStartsUppercase => Shape.StartsUppercase l.name
  | seasonFormat => ∃ years, Shape.seasonYears? l.season = some years
  | matchDateWithinSeason => ∀ years, Shape.seasonYears? l.season = some years →
      ∀ m ∈ l.games, ∀ year, Shape.dateYear? m.date = some year →
        years.1 ≤ year ∧ year ≤ years.2
  | hasMatches => l.games ≠ []
  | uniqueMatches => (l.games.map gameKey).Nodup
  | nameLength => l.name.length ≤ maxNameLength
  | seasonYearsConsecutive =>
      ∀ years, Shape.seasonYears? l.season = some years → years.2 = years.1 + 1
  | maxMatches => l.games.length ≤ maxGames

theorem isOutside_eq_false_iff {years : Nat × Nat} {m : Match} :
    isOutside years m = false ↔
      ∀ year, Shape.dateYear? m.date = some year → years.1 ≤ year ∧ year ≤ years.2 := by
  rw [isOutside]
  cases Shape.dateYear? m.date <;> simp

theorem check_eq_nil_iff {l : League} {r : LeagueRule} : r.check l = [] ↔ r.Holds l := by
  rw [check, List.map_eq_nil_iff]
  cases r with
  | nameStartsUppercase => simp [findings, Holds, Shape.startsOtherwise_eq_false_iff]
  | seasonFormat => simp [findings, Holds, Option.eq_none_iff_forall_ne_some]
  | matchDateWithinSeason =>
    simp only [findings, Holds]
    cases Shape.seasonYears? l.season <;> simp [isOutside_eq_false_iff]
  | hasMatches => simp [findings, Holds]
  | uniqueMatches => simp [findings, Holds, Shape.repeats_eq_nil_iff]
  | nameLength => simp [findings, Holds, String.length_toList]
  | seasonYearsConsecutive =>
    simp only [findings, Holds]
    cases Shape.seasonYears? l.season <;> simp
  | maxMatches => simp [findings, Holds]

end LeagueRule

/-! ### Matches -/

/-- A text with a character that is no blank. -/
def Text.HasInk (s : String) : Prop :=
  ∃ c ∈ s.toList, ¬ Text.isBlank c

theorem Text.isAllBlank_eq_false_iff {s : String} : Text.isAllBlank s = false ↔ Text.HasInk s := by
  simp [Text.isAllBlank, Text.HasInk]

theorem Text.HasInk.ne_empty {s : String} (h : Text.HasInk s) : s ≠ "" := by
  rintro rfl
  simp [Text.HasInk] at h

namespace MatchRule

/-- What a rule asks of a match. -/
def Holds (m : Match) : MatchRule → Prop
  | distinctTeams => Text.foldCase m.homeTeam ≠ Text.foldCase m.awayTeam
  | dateFormat => ∃ year, Shape.dateYear? m.date = some year
  | timeFormat => Shape.isTimeOfDay m.time
  | fieldsNotEmpty => ∀ field ∈ namedFields m, field.2 ≠ ""
  | stadiumMinLength => minStadiumLength ≤ (Text.trim m.stadium).length
  | scoreNonNegative => 0 ≤ m.homeScore.toInt ∧ 0 ≤ m.awayScore.toInt
  | scoreUpperBound => m.homeScore.toInt ≤ maxScore.toInt ∧ m.awayScore.toInt ≤ maxScore.toInt
  | cityNotBlank => (m.homeCity = "" ∨ Text.HasInk m.homeCity) ∧
      (m.awayCity = "" ∨ Text.HasInk m.awayCity)
  | kickoffGranularity => ∀ time, Shape.clock? m.time = some time → isKickoffMinute time.2

theorem check_eq_nil_iff {m : Match} {r : MatchRule} : r.check m = [] ↔ r.Holds m := by
  rw [check, List.map_eq_nil_iff]
  cases r with
  | distinctTeams => simp [complaints, Holds]
  | dateFormat => simp [complaints, Holds, Option.eq_none_iff_forall_ne_some]
  | timeFormat => simp [complaints, Holds]
  | fieldsNotEmpty => simp [complaints, Holds, String.isEmpty_iff]
  | stadiumMinLength => simp [complaints, Holds, Text.trim]
  | scoreNonNegative => simp [complaints, Holds, Int32.lt_iff_toInt_lt]
  | scoreUpperBound => simp [complaints, Holds, Int32.lt_iff_toInt_lt]
  | cityNotBlank =>
    simp only [Holds, or_iff_not_imp_left]
    simp [complaints, namedCities, Text.isAllBlank_eq_false_iff]
  | kickoffGranularity =>
    simp only [complaints, Holds]
    cases Shape.clock? m.time <;> simp

theorem holds_fieldsNotEmpty_iff {m : Match} :
    fieldsNotEmpty.Holds m ↔ m.homeTeam ≠ "" ∧ m.awayTeam ≠ "" ∧ m.homeCity ≠ "" ∧
      m.awayCity ≠ "" ∧ m.stadium ≠ "" := by
  simp [Holds, namedFields]

end MatchRule

/-! ### Rule sets -/

/-- What holds of all nodes holds of the nodes of each kind. -/
theorem Site.forall_mem_nodes_iff {s : Site} {p : Node → Prop} :
    (∀ n ∈ s.nodes, p n) ↔ p (.site s) ∧ p (.navigation s.navigation) ∧
      (∀ c ∈ s.countries, p (.country c)) ∧ (∀ l ∈ s.leagues, p (.league l)) ∧
      ∀ m ∈ s.games, p (.game m) := by
  simp only [nodes, Country.nodes, League.nodes, leagues, games, List.forall_mem_cons,
    List.forall_mem_flatMap, List.forall_mem_map, forall_and]

namespace Rule

/-- What a rule asks of a site: the property of the rule for each node that it looks at. -/
def Holds (s : Site) : Rule → Prop
  | site r => r.Holds s
  | navigation r => r.Holds s.navigation
  | country r => ∀ c ∈ s.countries, r.Holds c
  | league r => ∀ l ∈ s.leagues, r.Holds l
  | game r => ∀ m ∈ s.games, r.Holds m

/-- **A rule holds of a document exactly when it is silent about each of its nodes.** -/
theorem holds_iff_checkNode_eq_nil {r : Rule} {s : Site} :
    r.Holds s ↔ ∀ n ∈ s.nodes, r.checkNode n = [] := by
  rw [Site.forall_mem_nodes_iff]
  cases r with
  | site r => simp [Holds, checkNode, SiteRule.check_eq_nil_iff]
  | navigation r => simp [Holds, checkNode, NavigationRule.check_eq_nil_iff]
  | country r => simp [Holds, checkNode, CountryRule.check_eq_nil_iff]
  | league r => simp [Holds, checkNode, LeagueRule.check_eq_nil_iff]
  | game r => simp [Holds, checkNode, MatchRule.check_eq_nil_iff]

/-- The usual rules are all rules there are. -/
theorem mem_standard (r : Rule) : r ∈ standard := by
  rcases r with r | r | r | r | r <;> cases r <;> decide

end Rule

namespace RuleSet

variable {s : Site} {d : Diagnostic}

/-- **Usual rules are silent exactly when each of them holds.** -/
theorem evaluate_ofList_eq_nil_iff {rs : List Rule} :
    (ofList rs).evaluate s = [] ↔ ∀ r ∈ rs, r.Holds s := by
  simp only [evaluate_ofList, List.flatMap_eq_nil_iff, Rule.holds_iff_checkNode_eq_nil]
  exact ⟨fun h r hr n hn => h n hn r hr, fun h n hn r hr => h r hr n hn⟩

/-- The 27 rules are silent exactly when every rule holds. -/
theorem standard_silent_iff : standard.evaluate s = [] ↔ ∀ r : Rule, r.Holds s :=
  evaluate_ofList_eq_nil_iff.trans (forall_congr' fun r => forall_prop_of_true r.mem_standard)

/-- **Behind every violation there is a broken rule**, whose code the violation carries. -/
theorem exists_broken_of_mem_evaluate {rs : List Rule} (h : d ∈ (ofList rs).evaluate s) :
    ∃ r ∈ rs, d.code = r.code ∧ ¬ r.Holds s := by
  rw [evaluate_ofList] at h
  obtain ⟨n, hn, h⟩ := List.mem_flatMap.1 h
  obtain ⟨r, hr, hd⟩ := List.mem_flatMap.1 h
  refine ⟨r, hr, Rule.code_of_mem_checkNode hd, fun hholds => ?_⟩
  exact List.ne_nil_of_mem hd (Rule.holds_iff_checkNode_eq_nil.1 hholds n hn)

/-- A broken rule is reported. -/
theorem exists_mem_evaluate_of_not_holds {rs : List Rule} {r : Rule} (hr : r ∈ rs)
    (h : ¬ r.Holds s) : ∃ d ∈ (ofList rs).evaluate s, d.code = r.code := by
  rw [Rule.holds_iff_checkNode_eq_nil] at h
  push Not at h
  obtain ⟨n, hn, hne⟩ := h
  obtain ⟨d, hd⟩ := List.exists_mem_of_ne_nil _ hne
  refine ⟨d, ?_, Rule.code_of_mem_checkNode hd⟩
  rw [evaluate_ofList]
  exact List.mem_flatMap.2 ⟨n, hn, List.mem_flatMap.2 ⟨r, hr, hd⟩⟩

/-- A rule for leagues is silent about every league of a site when its rule set is silent about the
site, whatever other rules there are. -/
theorem check_league_eq_nil {rules : RuleSet} (h : rules.evaluate s = []) {r : NodeRule League}
    (hr : r ∈ rules.league) : ∀ l ∈ s.leagues, r.check l = [] := by
  rw [evaluate_eq_flatMap, List.flatMap_eq_nil_iff, Site.forall_mem_nodes_iff] at h
  obtain ⟨-, -, -, hleagues, -⟩ := h
  exact fun l hl => List.flatMap_eq_nil_iff.1 (hleagues l hl) r hr

end RuleSet

end Matchday
