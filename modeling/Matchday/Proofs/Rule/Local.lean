import Matchday.Proofs.Rule.Shape
import Matchday.Proofs.Rule.Walk

/-!
# Other matches in one league

The rules for sites, navigation blocks and countries look at names, seasons and positions and not at
matches: what they report is told by the outline of a document, in which no league has matches.  A
document with other matches in one league has the same outline, and the walk comes to this league at
the same place.  So only the violations by the league and by its matches change, and they stand in
one piece between the others.

## Main definitions

* `Country.outline`, `Site.outline`: the same without matches.
* `Site.replaceGames`: the same site with other matches in one league.
* `Site.AgreeBeside`: what two sites have in common that differ in one league.

## Main results

* `CountryRule.check_outline`, `SiteRule.check_outline`: these rules look at the outline only.
* `RuleSet.evaluate_replaceGames`: what changes with the matches of one league.
-/

namespace Matchday

/-! ### Outlines -/

/-- A league without its matches. -/
def League.outline (l : League) : League :=
  { l with games := [] }

/-- A country whose leagues have no matches. -/
def Country.outline (c : Country) : Country :=
  { c with leagues := c.leagues.map League.outline }

/-- A site whose leagues have no matches. -/
def Site.outline (s : Site) : Site :=
  { s with countries := s.countries.map Country.outline }

namespace CountryRule

variable (r : CountryRule) (c : Country)

theorem strayLeagues_outline :
    strayLeagues c.outline = (strayLeagues c).map fun (l, season) => (l.outline, season) := by
  rw [strayLeagues, strayLeagues, Country.outline]
  cases c.leagues with
  | nil => rfl
  | cons first rest =>
    simp only [List.map_cons, List.filter_map, List.map_map]
    rfl

/-- **A rule for countries does not look at matches.** -/
theorem check_outline : r.check c.outline = r.check c := by
  suffices h : findings c.outline r = findings c r by rw [check, check, h]
  cases r with
  | uniqueLeagueNames =>
    rw [findings, findings, Country.outline, Shape.repeats_map, List.map_map]
    rfl
  | nameStartsUppercase => rfl
  | hasLeagues => simp [findings, Country.outline]
  | nameLength => rfl
  | consistentSeason =>
    rw [findings, findings, strayLeagues_outline, List.map_map]
    rfl

theorem check_congr {c d : Country} (h : c.outline = d.outline) : r.check c = r.check d := by
  rw [← r.check_outline c, h, r.check_outline]

end CountryRule

namespace SiteRule

variable (r : SiteRule) (s : Site)

theorem countryNames_outline : s.outline.countryNames = s.countryNames := by
  simp [Site.countryNames, Site.outline, Country.outline]

/-- **A rule for sites does not look at matches.** -/
theorem check_outline : r.check s.outline = r.check s := by
  suffices h : findings s.outline r = findings s r by rw [check, check, h]
  cases r with
  | uniqueCountryNames =>
    rw [findings, findings, Site.outline, Shape.repeats_map, List.map_map]
    rfl
  | navigationTargetsExist =>
    rw [findings, findings, countryNames_outline]
    rfl
  | countriesListedInNavigation =>
    rw [findings, findings, Site.outline, List.filter_map, List.map_map]
    rfl

theorem check_congr {s t : Site} (h : s.outline = t.outline) : r.check s = r.check t := by
  rw [← r.check_outline s, h, r.check_outline]

end SiteRule

/-! ### Other matches -/

section Modify

variable {α β : Type} {f : α → α} {xs : List α} {i : Nat}

/-- Nothing that is the same for an element and its replacement changes. -/
theorem map_modify_of_eq {g : α → β} (h : ∀ x, g (f x) = g x) :
    (xs.modify i f).map g = xs.map g := by
  refine List.ext_getElem? fun k => ?_
  rw [List.getElem?_map, List.getElem?_map, List.getElem?_modify]
  cases xs[k]? with
  | none => rfl
  | some x =>
    change some (g (if i = k then f x else x)) = some (g x)
    split
    · rw [h]
    · rfl

theorem flatMap_modify {g : α → List β} (h : i < xs.length) :
    (xs.modify i f).flatMap g =
      (xs.take i).flatMap g ++ g (f xs[i]) ++ (xs.drop (i + 1)).flatMap g := by
  rw [List.modify_eq_take_cons_drop h, List.flatMap_append, List.flatMap_cons, List.append_assoc]

theorem modify_eq_self_of_eq (h : i < xs.length) (hf : f xs[i] = xs[i]) : xs.modify i f = xs := by
  rw [List.modify_eq_set_get f h, List.get_eq_getElem, hf, List.set_getElem_self]

end Modify

/-- The same country with other matches in the league at index `j`. -/
def Country.replaceGames (j : Nat) (games : List Match) (c : Country) : Country :=
  { c with leagues := c.leagues.modify j fun l => { l with games } }

namespace Country

variable (j : Nat) (games : List Match) (c : Country)

theorem outline_replaceGames : (c.replaceGames j games).outline = c.outline := by
  have hleagues : (c.replaceGames j games).leagues.map League.outline =
      c.leagues.map League.outline := map_modify_of_eq fun _ => rfl
  exact congrArg (fun leagues => { c with leagues }) hleagues

theorem getElem?_leagues_replaceGames {k : Nat} (h : k ≠ j) :
    (c.replaceGames j games).leagues[k]? = c.leagues[k]? :=
  List.getElem?_modify_ne _ _ h.symm

end Country

namespace Site

variable (s : Site) (i j : Nat) (games : List Match)

/-- The same site with other matches in the league at index `j` of the country at index `i`. -/
def replaceGames : Site :=
  { s with countries := s.countries.modify i (Country.replaceGames j games) }

theorem outline_replaceGames : (s.replaceGames i j games).outline = s.outline := by
  have hcountries : (s.replaceGames i j games).countries.map Country.outline =
      s.countries.map Country.outline :=
    map_modify_of_eq (Country.outline_replaceGames j games)
  exact congrArg (fun countries => { s with countries }) hcountries

theorem replaceGames_self (i : Fin s.countries.length) (j : Fin s.countries[i].leagues.length) :
    s.replaceGames i j s.countries[i].leagues[j].games = s := by
  have hleagues : s.countries[i].replaceGames j s.countries[i].leagues[j].games =
      s.countries[i] :=
    congrArg (fun leagues => { s.countries[i] with leagues }) (modify_eq_self_of_eq j.isLt rfl)
  exact congrArg (fun countries => { s with countries }) (modify_eq_self_of_eq i.isLt hleagues)

theorem league?_replaceGames {i' j' : Nat} (h : (i', j') ≠ (i, j)) :
    (s.replaceGames i j games).league? i' j' = s.league? i' j' := by
  rw [league?, league?, replaceGames, List.getElem?_modify]
  cases s.countries[i']? with
  | none => rfl
  | some c =>
    by_cases hi : i = i'
    · subst hi
      have hj : j' ≠ j := fun hj => h (by rw [hj])
      simp [Country.getElem?_leagues_replaceGames j games c hj]
    · simp [hi]

/-- What two sites have in common that differ in the matches of the league at index `j` of the
country at index `i`: what the rules for sites, for navigation blocks and for countries report, and
all other leagues. -/
structure AgreeBeside (i j : Nat) (s t : Site) : Prop where
  site : ∀ r : SiteRule, r.check t = r.check s
  navigation : ∀ r : NavigationRule, r.check t.navigation = r.check s.navigation
  country : ∀ r : CountryRule, t.countries.map r.check = s.countries.map r.check
  league : ∀ i' j', (i', j') ≠ (i, j) → t.league? i' j' = s.league? i' j'

theorem agreeBeside_replaceGames : s.AgreeBeside i j (s.replaceGames i j games) where
  site r := r.check_congr (s.outline_replaceGames i j games)
  navigation _ := rfl
  country r := map_modify_of_eq fun c => r.check_congr (c.outline_replaceGames j games)
  league _ _ := s.league?_replaceGames i j games

end Site

/-! ### The walk over a site with other matches -/

namespace RuleSet

section Outline

variable (rs : List Rule)

/-- Usual rules for sites see no difference between sites with the same outline. -/
theorem checkNode_site_congr {s t : Site} (h : s.outline = t.outline) :
    (ofList rs).checkNode (.site s) = (ofList rs).checkNode (.site t) := by
  rw [checkNode_ofList, checkNode_ofList]
  refine List.flatMap_congr fun r _ => ?_
  cases r with
  | site r => exact r.check_congr h
  | _ => rfl

/-- Usual rules for countries see no difference between countries with the same outline. -/
theorem checkNode_country_congr {c d : Country} (h : c.outline = d.outline) :
    (ofList rs).checkNode (.country c) = (ofList rs).checkNode (.country d) := by
  rw [checkNode_ofList, checkNode_ofList]
  refine List.flatMap_congr fun r _ => ?_
  cases r with
  | country r => exact r.check_congr h
  | _ => rfl

theorem checkCountry_replaceGames (c : Country) {j : Nat} (hj : j < c.leagues.length)
    (games : List Match) :
    (ofList rs).checkCountry (c.replaceGames j games) =
      (ofList rs).checkNode (.country c) ++
        (c.leagues.take j).flatMap (ofList rs).checkLeague ++
          (ofList rs).checkLeague { c.leagues[j] with games } ++
            (c.leagues.drop (j + 1)).flatMap (ofList rs).checkLeague := by
  have hcountry : (ofList rs).checkNode (.country (c.replaceGames j games)) =
      (ofList rs).checkNode (.country c) :=
    checkNode_country_congr rs (c.outline_replaceGames j games)
  have hleagues : (c.replaceGames j games).leagues.flatMap (ofList rs).checkLeague =
      (c.leagues.take j).flatMap (ofList rs).checkLeague ++
        (ofList rs).checkLeague { c.leagues[j] with games } ++
          (c.leagues.drop (j + 1)).flatMap (ofList rs).checkLeague := flatMap_modify hj
  change (ofList rs).checkNode (.country (c.replaceGames j games)) ++ _ = _
  rw [hcountry, hleagues]
  simp only [List.append_assoc]

end Outline

variable (rules : RuleSet) (s : Site) (i : Fin s.countries.length)
  (j : Fin s.countries[i].leagues.length)

/-- The violations that the walk finds before it comes to the league at index `j` of the country at
index `i`. -/
def reportBefore : List Diagnostic :=
  rules.site.flatMap (·.check s) ++ rules.navigation.flatMap (·.check s.navigation) ++
    (s.countries.take i).flatMap rules.checkCountry ++
      rules.country.flatMap (·.check s.countries[i]) ++
        (s.countries[i].leagues.take j).flatMap rules.checkLeague

/-- The violations that the walk finds after the last match of this league. -/
def reportAfter : List Diagnostic :=
  (s.countries[i].leagues.drop (j + 1)).flatMap rules.checkLeague ++
    (s.countries.drop (i + 1)).flatMap rules.checkCountry

theorem evaluate_replaceGames_eq (rs : List Rule) (games : List Match) :
    (ofList rs).evaluate (s.replaceGames i j games) =
      (ofList rs).reportBefore s i j ++
        (ofList rs).checkLeague { s.countries[i].leagues[j] with games } ++
          (ofList rs).reportAfter s i j := by
  have hsite : (ofList rs).checkNode (.site (s.replaceGames i j games)) =
      (ofList rs).checkNode (.site s) :=
    checkNode_site_congr rs (s.outline_replaceGames i j games)
  have hcountries : (s.replaceGames i j games).countries.flatMap (ofList rs).checkCountry =
      (s.countries.take i).flatMap (ofList rs).checkCountry ++
        (ofList rs).checkCountry (s.countries[i].replaceGames j games) ++
          (s.countries.drop (i + 1)).flatMap (ofList rs).checkCountry := flatMap_modify i.isLt
  have hnavigation : (s.replaceGames i j games).navigation = s.navigation := rfl
  change (ofList rs).checkNode (.site (s.replaceGames i j games)) ++ _ ++ _ = _
  rw [hsite, hcountries, hnavigation, checkCountry_replaceGames rs _ j.isLt, reportBefore,
    reportAfter]
  simp only [List.append_assoc]
  rfl

/-- **Violations are local**, whichever of the usual rules are registered.  With other matches in
one league only the violations by this league and by its matches change, which stand in one piece:
no rule for sites, for navigation blocks or for countries reports anything else, and no other
league changes. -/
theorem evaluate_replaceGames (rs : List Rule) :
    (ofList rs).evaluate s = (ofList rs).reportBefore s i j ++
      (ofList rs).checkLeague s.countries[i].leagues[j] ++ (ofList rs).reportAfter s i j ∧
    ∀ games, (ofList rs).evaluate (s.replaceGames i j games) =
      (ofList rs).reportBefore s i j ++
        (ofList rs).checkLeague { s.countries[i].leagues[j] with games } ++
          (ofList rs).reportAfter s i j ∧
      s.AgreeBeside i j (s.replaceGames i j games) := by
  refine ⟨?_, fun games => ⟨evaluate_replaceGames_eq s i j rs games,
    s.agreeBeside_replaceGames i j games⟩⟩
  have hself : s.replaceGames i j s.countries[i].leagues[j].games = s := s.replaceGames_self i j
  have heval := evaluate_replaceGames_eq s i j rs s.countries[i].leagues[j].games
  rwa [hself] at heval

end RuleSet

end Matchday
