import Matchday.Proofs.Rule.Meaning

/-!
# Well-formed sites

A site is well-formed when its names, numbers, dates and times are as a site of results needs them.
The definition speaks about the document alone; that the usual rules find the sites that are not
well-formed, and no others, is a theorem.

## Main definitions

* `Match.WellFormed`, `League.WellFormed`, `Country.WellFormed`, `Navigation.WellFormed`,
  `Site.WellFormed`: the requirements, node by node.

## Main results

* `RuleSet.evaluate_standard_eq_nil_iff`: the usual rules are silent exactly about the well-formed
  sites.
-/

namespace Matchday

/-- A match of a season that starts in the year `start`. -/
structure Match.WellFormed (start : Nat) (m : Match) : Prop where
  date : ∃ year, (year = start ∨ year = start + 1) ∧ year < 10 ^ 4 ∧
    ∃ month < 10 ^ 2, ∃ day < 10 ^ 2, m.date.toList = Shape.date year month day
  time : ∃ hours < 24, ∃ minutes ∈ [0, 15, 30, 45], m.time.toList = Shape.clock hours minutes
  teams : Text.foldCase m.homeTeam ≠ Text.foldCase m.awayTeam
  homeTeam : m.homeTeam ≠ ""
  awayTeam : m.awayTeam ≠ ""
  homeCity : Text.HasInk m.homeCity
  awayCity : Text.HasInk m.awayCity
  stadium : 3 ≤ (Text.trim m.stadium).length
  homeScore : 0 ≤ m.homeScore.toInt ∧ m.homeScore.toInt ≤ 99
  awayScore : 0 ≤ m.awayScore.toInt ∧ m.awayScore.toInt ≤ 99

/-- A league of one season, with its matches in the two years of the season. -/
structure League.WellFormed (l : League) : Prop where
  name_start : Shape.StartsUppercase l.name
  name_length : l.name.length ≤ 40
  season : ∃ start, start + 1 < 10 ^ 4 ∧ l.season.toList = Shape.season start (start + 1) ∧
    ∀ m ∈ l.games, m.WellFormed start
  games_ne_nil : l.games ≠ []
  games_length : l.games.length ≤ 380
  games_nodup : (l.games.map fun m => (m.date, m.time, m.homeTeam, m.awayTeam)).Nodup

/-- A country of a well-formed site: what the rules about countries ask for, and well-formed
leagues. -/
structure Country.WellFormed (c : Country) : Prop where
  name_start : Shape.StartsUppercase c.name
  name_length : c.name.length ≤ 40
  leagues_ne_nil : c.leagues ≠ []
  leagues_nodup : (c.leagues.map (·.name)).Nodup
  season : ∃ season, ∀ l ∈ c.leagues, l.season = season
  leagues : ∀ l ∈ c.leagues, l.WellFormed

/-- A navigation block that names each of some countries, and each of them once. -/
structure Navigation.WellFormed (countries : List String) (n : Navigation) : Prop where
  items_ne_nil : n.items ≠ []
  items_nodup : (n.items.map (·.name)).Nodup
  mem_items_iff : ∀ name, name ∈ n.items.map (·.name) ↔ name ∈ countries

/-- A site that breaks none of the usual rules, said without them. -/
structure Site.WellFormed (s : Site) : Prop where
  countries_nodup : s.countryNames.Nodup
  navigation : s.navigation.WellFormed s.countryNames
  countries : ∀ c ∈ s.countries, c.WellFormed

/-! ### Matches -/

theorem MatchRule.isKickoffMinute_iff {minutes : Nat} :
    MatchRule.isKickoffMinute minutes ↔ minutes ∈ [0, 15, 30, 45] := by
  simp only [MatchRule.isKickoffMinute, Bool.and_eq_true, beq_iff_eq, decide_eq_true_eq,
    List.mem_cons, List.not_mem_nil, or_false]
  omega

namespace Match

variable {start : Nat} {m : Match}

theorem WellFormed.dateYear? (h : m.WellFormed start) :
    ∃ year, (year = start ∨ year = start + 1) ∧ Shape.dateYear? m.date = some year := by
  obtain ⟨year, hyear, hlt, hdate⟩ := h.date
  exact ⟨year, hyear, Shape.dateYear?_eq_some_iff.2 ⟨hlt, hdate⟩⟩

theorem WellFormed.clock? (h : m.WellFormed start) :
    ∃ hours < 24, ∃ minutes ∈ [0, 15, 30, 45],
      Shape.clock? m.time = some (hours, minutes) := by
  obtain ⟨hours, hh, minutes, hm, htime⟩ := h.time
  have hlt : minutes < 100 := by
    simp only [List.mem_cons, List.not_mem_nil, or_false] at hm
    omega
  exact ⟨hours, hh, minutes, hm, Shape.clock?_eq_some_iff.2 ⟨by omega, hlt, htime⟩⟩

/-- Every rule holds of a well-formed match. -/
theorem WellFormed.holds (h : m.WellFormed start) (r : MatchRule) : r.Holds m := by
  cases r with
  | distinctTeams => exact h.teams
  | dateFormat =>
    obtain ⟨year, -, hdate⟩ := h.dateYear?
    exact ⟨year, hdate⟩
  | timeFormat =>
    obtain ⟨hours, hh, minutes, hm, htime⟩ := h.time
    refine Shape.isTimeOfDay_iff.2 ⟨hours, hh, minutes, ?_, htime⟩
    simp only [List.mem_cons, List.not_mem_nil, or_false] at hm
    omega
  | fieldsNotEmpty =>
    have hstadium : m.stadium ≠ "" := by
      intro hm
      have := h.stadium
      simp [hm, Text.trim, Text.trimWhile, Text.dropEndWhile] at this
    exact MatchRule.holds_fieldsNotEmpty_iff.2
      ⟨h.homeTeam, h.awayTeam, h.homeCity.ne_empty, h.awayCity.ne_empty, hstadium⟩
  | stadiumMinLength => exact h.stadium
  | scoreNonNegative => exact ⟨h.homeScore.1, h.awayScore.1⟩
  | scoreUpperBound => exact ⟨h.homeScore.2, h.awayScore.2⟩
  | cityNotBlank => exact ⟨Or.inr h.homeCity, Or.inr h.awayCity⟩
  | kickoffGranularity =>
    obtain ⟨hours, -, minutes, hm, hclock⟩ := h.clock?
    intro time htime
    obtain rfl := Option.some.inj (hclock.symm.trans htime)
    exact MatchRule.isKickoffMinute_iff.2 hm

/-- A match is well-formed when all rules for matches hold of it and its year is one of the
season. -/
theorem wellFormed_of_holds (h : ∀ r : MatchRule, r.Holds m)
    (hyear : ∀ year, Shape.dateYear? m.date = some year → start ≤ year ∧ year ≤ start + 1) :
    m.WellFormed start := by
  obtain ⟨hhome, haway, hhomeCity, hawayCity, -⟩ :=
    MatchRule.holds_fieldsNotEmpty_iff.1 (h .fieldsNotEmpty)
  obtain ⟨year, hdate⟩ := h .dateFormat
  obtain ⟨hours, hh, minutes, hm, htime⟩ := Shape.isTimeOfDay_iff.1 (h .timeFormat)
  have hclock : Shape.clock? m.time = some (hours, minutes) :=
    Shape.clock?_eq_some_iff.2 ⟨by omega, by omega, htime⟩
  exact {
    date := by
      have hbounds := hyear year hdate
      exact ⟨year, by omega, Shape.dateYear?_eq_some_iff.1 hdate⟩
    time := ⟨hours, hh, minutes,
      MatchRule.isKickoffMinute_iff.1 (h .kickoffGranularity _ hclock), htime⟩
    teams := h .distinctTeams
    homeTeam := hhome
    awayTeam := haway
    homeCity := (h .cityNotBlank).1.resolve_left hhomeCity
    awayCity := (h .cityNotBlank).2.resolve_left hawayCity
    stadium := h .stadiumMinLength
    homeScore := ⟨(h .scoreNonNegative).1, (h .scoreUpperBound).1⟩
    awayScore := ⟨(h .scoreNonNegative).2, (h .scoreUpperBound).2⟩ }

end Match

/-! ### Leagues -/

namespace League

variable {l : League}

theorem WellFormed.seasonYears? (h : l.WellFormed) :
    ∃ start, Shape.seasonYears? l.season = some (start, start + 1) ∧
      ∀ m ∈ l.games, m.WellFormed start := by
  obtain ⟨start, hlt, hseason, hgames⟩ := h.season
  exact ⟨start, Shape.seasonYears?_eq_some_iff.2 ⟨by omega, hlt, hseason⟩, hgames⟩

/-- Every rule holds of a well-formed league. -/
theorem WellFormed.holds (h : l.WellFormed) (r : LeagueRule) : r.Holds l := by
  obtain ⟨start, hseason, hgames⟩ := h.seasonYears?
  cases r with
  | nameStartsUppercase => exact h.name_start
  | seasonFormat => exact ⟨_, hseason⟩
  | matchDateWithinSeason =>
    intro years hyears m hm year hyear
    obtain rfl := Option.some.inj (hseason.symm.trans hyears)
    obtain ⟨year', hstart, hdate⟩ := (hgames m hm).dateYear?
    obtain rfl := Option.some.inj (hdate.symm.trans hyear)
    change start ≤ year' ∧ year' ≤ start + 1
    omega
  | hasMatches => exact h.games_ne_nil
  | uniqueMatches => exact h.games_nodup
  | nameLength => exact h.name_length
  | seasonYearsConsecutive =>
    intro years hyears
    obtain rfl := Option.some.inj (hseason.symm.trans hyears)
    rfl
  | maxMatches => exact h.games_length

/-- A league is well-formed when the rules hold of it and of its matches. -/
theorem wellFormed_iff_holds : l.WellFormed ↔
    (∀ r : LeagueRule, r.Holds l) ∧ ∀ m ∈ l.games, ∀ r : MatchRule, r.Holds m := by
  refine Iff.symm ⟨?_, ?_⟩
  · rintro ⟨h, hgames⟩
    obtain ⟨⟨start, stop⟩, hseason⟩ := h .seasonFormat
    obtain rfl : stop = start + 1 := h .seasonYearsConsecutive _ hseason
    obtain ⟨-, hlt, htext⟩ := Shape.seasonYears?_eq_some_iff.1 hseason
    have hgame : ∀ m ∈ l.games, m.WellFormed start := fun m hm =>
      Match.wellFormed_of_holds (hgames m hm) (h .matchDateWithinSeason _ hseason m hm)
    exact {
      name_start := h .nameStartsUppercase
      name_length := h .nameLength
      season := ⟨start, hlt, htext, hgame⟩
      games_ne_nil := h .hasMatches
      games_length := h .maxMatches
      games_nodup := h .uniqueMatches }
  · intro h
    obtain ⟨start, -, hgames⟩ := h.seasonYears?
    exact ⟨h.holds, fun m hm => (hgames m hm).holds⟩

end League

/-! ### Countries and sites -/

/-- A country is well-formed when the rules hold of it and its leagues are well-formed. -/
theorem Country.wellFormed_iff_holds {c : Country} :
    c.WellFormed ↔ (∀ r : CountryRule, r.Holds c) ∧ ∀ l ∈ c.leagues, l.WellFormed := by
  refine Iff.symm ⟨?_, ?_⟩
  · rintro ⟨h, hleagues⟩
    have hne : c.leagues ≠ [] := h .hasLeagues
    obtain ⟨first, hfirst⟩ := List.exists_mem_of_ne_nil _ hne
    exact {
      name_start := h .nameStartsUppercase
      name_length := h .nameLength
      leagues_ne_nil := hne
      leagues_nodup := h .uniqueLeagueNames
      season := ⟨first.season, fun l hl => h .consistentSeason l hl first hfirst⟩
      leagues := hleagues }
  · intro h
    refine ⟨fun r => ?_, h.leagues⟩
    cases r with
    | uniqueLeagueNames => exact h.leagues_nodup
    | nameStartsUppercase => exact h.name_start
    | hasLeagues => exact h.leagues_ne_nil
    | nameLength => exact h.name_length
    | consistentSeason =>
      obtain ⟨season, hseason⟩ := h.season
      intro l hl l' hl'
      rw [hseason l hl, hseason l' hl']

/-- **A site is well-formed when all rules hold of it.** -/
theorem Site.wellFormed_iff_holds {s : Site} : s.WellFormed ↔ ∀ r : Rule, r.Holds s := by
  constructor
  · intro h r
    have hleague : ∀ l ∈ s.leagues, l.WellFormed := by
      intro l hl
      obtain ⟨c, hc, hl⟩ := List.mem_flatMap.1 hl
      exact (h.countries c hc).leagues l hl
    cases r with
    | site r =>
      cases r with
      | uniqueCountryNames => exact h.countries_nodup
      | navigationTargetsExist =>
        exact fun i hi => (h.navigation.mem_items_iff _).1 (List.mem_map_of_mem hi)
      | countriesListedInNavigation =>
        exact fun c hc => (h.navigation.mem_items_iff _).2 (List.mem_map_of_mem hc)
    | navigation r =>
      cases r with
      | noDuplicateItems => exact h.navigation.items_nodup
      | notEmpty => exact h.navigation.items_ne_nil
    | country r => exact fun c hc => (Country.wellFormed_iff_holds.1 (h.countries c hc)).1 r
    | league r => exact fun l hl => (League.wellFormed_iff_holds.1 (hleague l hl)).1 r
    | game r =>
      intro m hm
      obtain ⟨l, hl, hm⟩ := List.mem_flatMap.1 hm
      exact (League.wellFormed_iff_holds.1 (hleague l hl)).2 m hm r
  · intro h
    have hleague : ∀ c ∈ s.countries, ∀ l ∈ c.leagues, l.WellFormed := by
      intro c hc l hl
      have hl : l ∈ s.leagues := List.mem_flatMap.2 ⟨c, hc, hl⟩
      exact League.wellFormed_iff_holds.2 ⟨fun r => h (.league r) l hl, fun m hm r =>
        h (.game r) m (List.mem_flatMap.2 ⟨l, hl, hm⟩)⟩
    have hcountry : ∀ c ∈ s.countries, c.WellFormed := fun c hc =>
      Country.wellFormed_iff_holds.2 ⟨fun r => h (.country r) c hc, hleague c hc⟩
    refine ⟨h (.site .uniqueCountryNames), ⟨h (.navigation .notEmpty),
      h (.navigation .noDuplicateItems), fun name => ⟨fun hname => ?_, fun hname => ?_⟩⟩, hcountry⟩
    · obtain ⟨i, hi, rfl⟩ := List.mem_map.1 hname
      exact h (.site .navigationTargetsExist) i hi
    · obtain ⟨c, hc, rfl⟩ := List.mem_map.1 hname
      exact h (.site .countriesListedInNavigation) c hc

/-- **The usual rules find the sites that are not well-formed, and no others.** -/
theorem RuleSet.evaluate_standard_eq_nil_iff (s : Site) :
    standard.evaluate s = [] ↔ s.WellFormed :=
  standard_silent_iff.trans Site.wellFormed_iff_holds.symm

end Matchday
