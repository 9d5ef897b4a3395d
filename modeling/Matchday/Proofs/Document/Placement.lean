import Matchday.Document.Model
import Matchday.Proofs.Page.ReadBack
import Matchday.Proofs.Rule.Shape
import Matchday.Proofs.Rule.Walk

/-!
# Where nodes stand

Nothing is decided by the positions of nodes.  Two documents that differ in nothing else have the
same pages and the same model text, and the rules find the same violations in them, one by one; only
the violations themselves tell the positions.

## Main definitions

* `Node.unplaced`: a node without positions.
* `Site.repeating`: a site with repetitions, its nodes at any position.

## Main results

* `RuleSet.map_code_evaluate_unplaced`: rules find the same without positions.
* `Site.same_of_unplaced_eq`: what two documents have in common that differ in positions only.
-/

namespace Matchday

/-- A node without positions. -/
def Node.unplaced : Node → Node
  | site s => .site s.unplaced
  | navigation n => .navigation n.unplaced
  | country c => .country c.unplaced
  | league l => .league l.unplaced
  | game m => .game (m.at {})

/-! ### The walk -/

theorem League.nodes_unplaced (l : League) : l.unplaced.nodes = l.nodes.map Node.unplaced := by
  simp [nodes, unplaced, Node.unplaced, Function.comp_def]

theorem Country.nodes_unplaced (c : Country) : c.unplaced.nodes = c.nodes.map Node.unplaced := by
  simp [nodes, unplaced, Node.unplaced, List.flatMap_map, List.map_flatMap, League.nodes_unplaced]

theorem Site.nodes_unplaced (s : Site) : s.unplaced.nodes = s.nodes.map Node.unplaced := by
  simp [nodes, unplaced, Node.unplaced, List.flatMap_map, List.map_flatMap, Country.nodes_unplaced]

/-! ### What rules ask for -/

section Count

variable {α : Type}

theorem length_ite_singleton_congr {p q : Prop} [Decidable p] [Decidable q] (h : p ↔ q) (x y : α) :
    (if p then [x] else []).length = (if q then [y] else []).length := by
  simp only [h]
  split <;> rfl

theorem length_filter_map_congr {f : α → α} {p q : α → Bool} (h : ∀ x, p (f x) = q x)
    (xs : List α) : ((xs.map f).filter p).length = (xs.filter q).length := by
  rw [List.filter_map, List.length_map]
  exact congrArg (fun p => (xs.filter p).length) (funext h)

end Count

theorem Navigation.map_name_items_unplaced (n : Navigation) :
    n.unplaced.items.map (·.name) = n.items.map (·.name) := by
  rw [unplaced, List.map_map]
  rfl

theorem Site.countryNames_unplaced (s : Site) : s.unplaced.countryNames = s.countryNames := by
  rw [countryNames, unplaced, List.map_map]
  rfl

theorem SiteRule.length_check_unplaced (s : Site) (r : SiteRule) :
    (r.check s.unplaced).length = (r.check s).length := by
  rw [check, check, List.length_map, List.length_map]
  cases r with
  | uniqueCountryNames =>
    rw [findings, findings, List.length_map, List.length_map, Site.unplaced, Shape.repeats_map,
      List.length_map]
    rfl
  | navigationTargetsExist =>
    rw [findings, findings, List.length_map, List.length_map, Site.countryNames_unplaced]
    exact length_filter_map_congr (fun _ => rfl) s.navigation.items
  | countriesListedInNavigation =>
    have hitems := s.navigation.map_name_items_unplaced
    rw [findings, findings, List.length_map, List.length_map]
    exact length_filter_map_congr (fun c => by rw [← hitems]; rfl) s.countries

theorem NavigationRule.length_check_unplaced (n : Navigation) (r : NavigationRule) :
    (r.check n.unplaced).length = (r.check n).length := by
  rw [check, check, List.length_map, List.length_map]
  cases r with
  | noDuplicateItems =>
    rw [findings, findings, List.length_map, List.length_map, Navigation.unplaced,
      Shape.repeats_map, List.length_map]
  | notEmpty => exact length_ite_singleton_congr (by simp [Navigation.unplaced]) _ _

theorem CountryRule.length_check_unplaced (c : Country) (r : CountryRule) :
    (r.check c.unplaced).length = (r.check c).length := by
  rw [check, check, List.length_map, List.length_map]
  cases r with
  | uniqueLeagueNames =>
    rw [findings, findings, List.length_map, List.length_map, Country.unplaced, Shape.repeats_map,
      List.length_map]
    rfl
  | nameStartsUppercase => exact length_ite_singleton_congr Iff.rfl _ _
  | hasLeagues => exact length_ite_singleton_congr (by simp [Country.unplaced]) _ _
  | nameLength => exact length_ite_singleton_congr Iff.rfl _ _
  | consistentSeason =>
    rw [findings, findings, List.length_map, List.length_map, strayLeagues, strayLeagues,
      Country.unplaced]
    cases c.leagues with
    | nil => rfl
    | cons first rest =>
      rw [List.map_cons, List.length_map, List.length_map]
      exact length_filter_map_congr (fun _ => rfl) rest

theorem LeagueRule.length_check_unplaced (l : League) (r : LeagueRule) :
    (r.check l.unplaced).length = (r.check l).length := by
  rw [check, check, List.length_map, List.length_map]
  cases r with
  | nameStartsUppercase => exact length_ite_singleton_congr Iff.rfl _ _
  | seasonFormat => exact length_ite_singleton_congr Iff.rfl _ _
  | matchDateWithinSeason =>
    rw [findings, findings, League.unplaced]
    cases Shape.seasonYears? l.season with
    | none => rfl
    | some years =>
      rw [List.length_map, List.length_map]
      exact length_filter_map_congr (fun _ => rfl) l.games
  | hasMatches => exact length_ite_singleton_congr (by simp [League.unplaced]) _ _
  | uniqueMatches =>
    rw [findings, findings, List.length_map, List.length_map, League.unplaced, Shape.repeats_map,
      List.length_map]
    rfl
  | nameLength => exact length_ite_singleton_congr Iff.rfl _ _
  | seasonYearsConsecutive =>
    rw [findings, findings, League.unplaced]
    cases Shape.seasonYears? l.season with
    | none => rfl
    | some years => exact length_ite_singleton_congr Iff.rfl _ _
  | maxMatches => exact length_ite_singleton_congr (by simp [League.unplaced]) _ _

theorem MatchRule.length_check_unplaced (m : Match) (r : MatchRule) :
    (r.check (m.at {})).length = (r.check m).length := by
  rw [check, check, List.length_map, List.length_map]
  cases r with
  | distinctTeams | dateFormat | timeFormat | stadiumMinLength =>
    exact length_ite_singleton_congr Iff.rfl _ _
  | fieldsNotEmpty | scoreNonNegative | scoreUpperBound | cityNotBlank =>
    rw [complaints, complaints, List.length_map, List.length_map]
    rfl
  | kickoffGranularity =>
    have htime : (m.at {}).time = m.time := rfl
    rw [complaints, complaints, htime]
    cases Shape.clock? m.time with
    | none => rfl
    | some time => dsimp only; split <;> rfl

/-! ### What rules report -/

theorem Rule.length_checkNode_unplaced (r : Rule) (n : Node) :
    (r.checkNode n.unplaced).length = (r.checkNode n).length := by
  cases r with
  | site r =>
    cases n with
    | site s => exact r.length_check_unplaced s
    | _ => rfl
  | navigation r =>
    cases n with
    | navigation n => exact r.length_check_unplaced n
    | _ => rfl
  | country r =>
    cases n with
    | country c => exact r.length_check_unplaced c
    | _ => rfl
  | league r =>
    cases n with
    | league l => exact r.length_check_unplaced l
    | _ => rfl
  | game r =>
    cases n with
    | game m => exact r.length_check_unplaced m
    | _ => rfl

/-- The violations of a rule are told apart only by message and position. -/
theorem Rule.map_code_checkNode (r : Rule) (n : Node) :
    (r.checkNode n).map (·.code) = List.replicate (r.checkNode n).length r.code := by
  refine List.eq_replicate_iff.2 ⟨List.length_map _, fun c hc => ?_⟩
  obtain ⟨d, hd, rfl⟩ := List.mem_map.1 hc
  exact code_of_mem_checkNode hd

namespace RuleSet

variable (rs : List Rule)

theorem map_code_checkNode_unplaced (n : Node) :
    ((ofList rs).checkNode n.unplaced).map (·.code) =
      ((ofList rs).checkNode n).map (·.code) := by
  rw [checkNode_ofList, checkNode_ofList, List.map_flatMap, List.map_flatMap]
  refine List.flatMap_congr fun r _ => ?_
  rw [r.map_code_checkNode, r.map_code_checkNode, r.length_checkNode_unplaced]

/-- **Rules find the same violations without positions**, one by one. -/
theorem map_code_evaluate_unplaced (s : Site) :
    ((ofList rs).evaluate s.unplaced).map (·.code) = ((ofList rs).evaluate s).map (·.code) := by
  rw [evaluate_eq_flatMap, evaluate_eq_flatMap, s.nodes_unplaced, List.flatMap_map,
    List.map_flatMap, List.map_flatMap]
  exact List.flatMap_congr fun n _ => map_code_checkNode_unplaced rs n

end RuleSet

/-! ### The model text -/

theorem Match.modelText_at (m : Match) (pos : Position) : (m.at pos).modelText = m.modelText := by
  unfold modelText
  rfl

theorem League.modelText_unplaced (l : League) : l.unplaced.modelText = l.modelText := by
  have hgames : l.unplaced.games.map Match.modelText = l.games.map Match.modelText := by
    rw [unplaced, List.map_map, Function.comp_def, funext (Match.modelText_at · {})]
  unfold modelText
  rw [hgames]
  rfl

theorem Country.modelText_unplaced (c : Country) : c.unplaced.modelText = c.modelText := by
  have hleagues : c.unplaced.leagues.map League.modelText = c.leagues.map League.modelText := by
    rw [unplaced, List.map_map, Function.comp_def, funext League.modelText_unplaced]
  unfold modelText
  rw [hleagues]
  rfl

theorem NavItem.modelText_unplaced (i : NavItem) : modelText { name := i.name } = i.modelText := by
  unfold modelText
  rfl

theorem Site.modelText_unplaced (s : Site) : s.unplaced.modelText = s.modelText := by
  have hitems : s.unplaced.navigation.items.map NavItem.modelText =
      s.navigation.items.map NavItem.modelText := by
    rw [unplaced, Navigation.unplaced, List.map_map, Function.comp_def,
      funext NavItem.modelText_unplaced]
  have hcountries : s.unplaced.countries.map (fun c => c.modelText ++ "\n") =
      s.countries.map fun c => c.modelText ++ "\n" := by
    rw [unplaced, List.map_map, Function.comp_def]
    simp only [Country.modelText_unplaced]
  unfold modelText
  rw [hitems, hcountries]
  rfl

/-! ### Two documents -/

namespace Site

/-- **Documents that differ only in positions have the same pages and the same model text**, and
any rules, the usual ones among them, find violations with the same codes in the same order. -/
theorem same_of_unplaced_eq {s t : Site} (h : s.unplaced = t.unplaced) :
    s.pages = t.pages ∧ s.modelText = t.modelText ∧
      ∀ rs : List Rule, ((RuleSet.ofList rs).evaluate s).map (·.code) =
        ((RuleSet.ofList rs).evaluate t).map (·.code) := by
  have hcontent : s.content = t.content := by rw [content, content, h]
  refine ⟨?_, ?_, fun rs => ?_⟩
  · rw [← s.pages_content, hcontent, t.pages_content]
  · rw [← s.modelText_unplaced, h, t.modelText_unplaced]
  · rw [← RuleSet.map_code_evaluate_unplaced rs s, h, RuleSet.map_code_evaluate_unplaced]

/-- A site with two countries of one name and two times the same match, all at one position. -/
def repeating (pos : Position) : Site :=
  let game : Match := {
    date := "2026-02-15"
    time := "21:10"
    homeTeam := "Real Madrid"
    homeCity := "Madrid"
    awayTeam := "FC Barcelona"
    awayCity := "Barcelona"
    homeScore := 3
    awayScore := 2
    stadium := "Santiago Bernabéu"
    pos }
  let league : League := { name := "LaLiga", season := "2025-2026", games := [game, game], pos }
  let country : Country := { name := "Spain", leagues := [league], pos }
  { name := "Results"
    navigation := { items := [{ name := "Spain", pos }], pos }
    countries := [country, country]
    pos }

/-- The same violations are found wherever the nodes stand, but they tell different positions. -/
theorem repeating_same_of_unplaced_eq :
    (repeating {}).unplaced = (repeating ⟨3, 7⟩).unplaced ∧
      (RuleSet.standard.evaluate (repeating {})).map (·.code.text) =
        ["0xFC001", "0xFC017", "0xFC025", "0xFC025", "0xFC017", "0xFC025", "0xFC025"] ∧
      RuleSet.standard.evaluate (repeating {}) ≠ RuleSet.standard.evaluate (repeating ⟨3, 7⟩) ∧
      (repeating {}).pages = (repeating ⟨3, 7⟩).pages ∧
      (repeating {}).modelText = (repeating ⟨3, 7⟩).modelText ∧
      (RuleSet.standard.evaluate (repeating {})).map (·.code) =
        (RuleSet.standard.evaluate (repeating ⟨3, 7⟩)).map (·.code) := by
  have hunplaced : (repeating {}).unplaced = (repeating ⟨3, 7⟩).unplaced := rfl
  obtain ⟨hpages, htext, hcodes⟩ := same_of_unplaced_eq hunplaced
  exact ⟨hunplaced, by decide +kernel, by decide +kernel, hpages, htext, hcodes Rule.standard⟩

end Site

end Matchday
