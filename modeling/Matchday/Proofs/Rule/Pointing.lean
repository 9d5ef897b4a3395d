import Matchday.Proofs.Rule.Meaning

/-!
# Where violations point

A violation carries the position of a node, and its message shows this position to the reader.
Rules that look at a list in a node report the element of the list and not the node: an entry of the
navigation block, a country of the site, a league of the country or a match of the league.  So the
kind of the node that is to blame is settled by the number of the rule, and not by the kind of node
that the rule is run at.

## Main definitions

* `Culprit`, `RuleCode.culprit?`: the kinds of nodes to blame, and the kind for each number.
* `Site.positions`: where the nodes of a kind stand in a site.
* `Position.ShownIn`: a message shows a position.
* `Diagnostic.PointsInto`: a violation points at a node of a site.

## Main results

* `SiteRule.pointsInto`, `NavigationRule.pointsInto`, `CountryRule.pointsInto`,
  `LeagueRule.pointsInto`, `MatchRule.pointsInto`: what one rule reports at a node of the site.
* `RuleSet.pointsInto_of_mem_evaluate`: what a rule set reports.
-/

namespace Matchday

/-- The kinds of nodes that a violation may point at. -/
inductive Culprit where
  | navigation
  | item
  | country
  | league
  | game
deriving DecidableEq, Repr

/-- The kind of node that is to blame when the rule of this number is broken. -/
def RuleCode.culprit? (c : RuleCode) : Option Culprit :=
  if c.number ∈ [18] then some .navigation
  else if c.number ∈ [4, 10] then some .item
  else if c.number ∈ [1, 11, 12, 15, 21] then some .country
  else if c.number ∈ [2, 5, 9, 16, 22, 24, 26, 27] then some .league
  else if c.number ∈ [3, 6, 7, 8, 13, 14, 17, 19, 20, 23, 25] then some .game
  else none

/-- Where the nodes of a kind stand. -/
def Site.positions (s : Site) : Culprit → List Position
  | .navigation => [s.navigation.pos]
  | .item => s.navigation.items.map (·.pos)
  | .country => s.countries.map (·.pos)
  | .league => s.leagues.map (·.pos)
  | .game => s.games.map (·.pos)

/-! ### Positions in messages -/

namespace Position

/-- Somewhere in a message stand the line and the column of a position, with a colon between. -/
def ShownIn (p : Position) (message : String) : Prop :=
  ∃ front back : String, message = front ++ p.text ++ back

variable (p : Position)

theorem shownIn_append (front back : String) : p.ShownIn (front ++ p.text ++ back) :=
  ⟨front, back, rfl⟩

variable {p}

theorem ShownIn.append {message : String} (h : p.ShownIn message) (more : String) :
    p.ShownIn (message ++ more) := by
  obtain ⟨front, back, rfl⟩ := h
  exact ⟨front, back ++ more, String.append_assoc⟩

theorem ShownIn.after {message : String} (h : p.ShownIn message) (less : String) :
    p.ShownIn (less ++ message) := by
  obtain ⟨front, back, rfl⟩ := h
  exact ⟨less ++ front, back, by simp only [String.append_assoc]⟩

end Position

/-! ### What one rule reports -/

/-- A violation points at a node of a site: its position is that of a node of the kind that its
code tells, and its message shows this position. -/
structure Diagnostic.PointsInto (s : Site) (d : Diagnostic) : Prop where
  pos_mem : ∃ kind, d.code.culprit? = some kind ∧ d.pos ∈ s.positions kind
  shown : d.pos.ShownIn d.message

theorem eq_of_mem_ite {α : Type} {p : Prop} [Decidable p] {x y : α}
    (h : y ∈ if p then [x] else []) : y = x := by
  split at h
  · exact List.mem_singleton.1 h
  · exact absurd h List.not_mem_nil

/-- A report of at most one finding. -/
theorem eq_of_mem_map_ite {α β : Type} {p : Prop} [Decidable p] {x : α} {report : α → β} {y : β}
    (h : y ∈ (if p then [x] else []).map report) : y = report x := by
  obtain ⟨x', hx', rfl⟩ := List.mem_map.1 h
  rw [eq_of_mem_ite hx']

section Rules

variable {s : Site} {d : Diagnostic}

/-- What a rule reports about elements of a list. -/
theorem exists_of_mem_map_map {α : Type} {xs : List α} {finding : α → Position × String}
    {report : Position × String → Diagnostic} (h : d ∈ (xs.map finding).map report) :
    ∃ x ∈ xs, d = report (finding x) := by
  rw [List.map_map] at h
  obtain ⟨x, hx, rfl⟩ := List.mem_map.1 h
  exact ⟨x, hx, rfl⟩

/-- **Rules for sites point at countries and at entries of the navigation block.** -/
theorem SiteRule.pointsInto {r : SiteRule} (h : d ∈ r.check s) : d.PointsInto s := by
  cases r with
  | uniqueCountryNames =>
    obtain ⟨c, hc, rfl⟩ := exists_of_mem_map_map h
    exact ⟨⟨.country, rfl, List.mem_map_of_mem (Shape.mem_repeats hc)⟩, c.pos.shownIn_append _ _⟩
  | navigationTargetsExist =>
    obtain ⟨i, hi, rfl⟩ := exists_of_mem_map_map h
    exact ⟨⟨.item, rfl, List.mem_map_of_mem (List.mem_of_mem_filter hi)⟩, i.pos.shownIn_append _ _⟩
  | countriesListedInNavigation =>
    obtain ⟨c, hc, rfl⟩ := exists_of_mem_map_map h
    exact ⟨⟨.country, rfl, List.mem_map_of_mem (List.mem_of_mem_filter hc)⟩,
      c.pos.shownIn_append _ _⟩

/-- **Rules for the navigation block point at its entries or at the block.** -/
theorem NavigationRule.pointsInto {r : NavigationRule} (h : d ∈ r.check s.navigation) :
    d.PointsInto s := by
  cases r with
  | noDuplicateItems =>
    obtain ⟨i, hi, rfl⟩ := exists_of_mem_map_map h
    exact ⟨⟨.item, rfl, List.mem_map_of_mem (Shape.mem_repeats hi)⟩,
      (i.pos.shownIn_append _ _).append _⟩
  | notEmpty =>
    obtain rfl := eq_of_mem_map_ite h
    exact ⟨⟨.navigation, rfl, List.mem_singleton_self _⟩, s.navigation.pos.shownIn_append _ _⟩

theorem CountryRule.mem_of_mem_strayLeagues {c : Country} {stray : League × String}
    (h : stray ∈ strayLeagues c) : stray.1 ∈ c.leagues := by
  rw [strayLeagues] at h
  split at h
  next => exact absurd h List.not_mem_nil
  next first rest hc =>
    obtain ⟨l, hl, rfl⟩ := List.mem_map.1 h
    rw [hc]
    exact List.mem_cons_of_mem _ (List.mem_of_mem_filter hl)

/-- **Rules for countries point at the country or at one of its leagues.** -/
theorem CountryRule.pointsInto {r : CountryRule} {c : Country} (hc : c ∈ s.countries)
    (h : d ∈ r.check c) : d.PointsInto s := by
  have hleague {l : League} (hl : l ∈ c.leagues) : l.pos ∈ s.positions .league :=
    List.mem_map_of_mem (List.mem_flatMap_of_mem hc hl)
  have hcountry : c.pos ∈ s.positions .country := List.mem_map_of_mem hc
  -- Two rules compare the leagues with each other and report a league, the others the country.
  cases r with
  | uniqueLeagueNames =>
    obtain ⟨l, hl, rfl⟩ := exists_of_mem_map_map h
    exact ⟨⟨.league, rfl, hleague (Shape.mem_repeats hl)⟩, l.pos.shownIn_append _ _⟩
  | consistentSeason =>
    obtain ⟨⟨l, season⟩, hl, rfl⟩ := exists_of_mem_map_map h
    exact ⟨⟨.league, rfl, hleague (mem_of_mem_strayLeagues hl)⟩,
      (((l.pos.shownIn_append _ _).append _).append _).append _⟩
  | nameStartsUppercase =>
    obtain rfl := eq_of_mem_map_ite h
    exact ⟨⟨.country, rfl, hcountry⟩, c.pos.shownIn_append _ _⟩
  | hasLeagues =>
    obtain rfl := eq_of_mem_map_ite h
    exact ⟨⟨.country, rfl, hcountry⟩, (c.pos.shownIn_append _ _).append _⟩
  | nameLength =>
    obtain rfl := eq_of_mem_map_ite h
    exact ⟨⟨.country, rfl, hcountry⟩, (((c.pos.shownIn_append _ _).append _).append _).append _⟩

/-- **Rules for leagues point at the league or at one of its matches.** -/
theorem LeagueRule.pointsInto {r : LeagueRule} {l : League} (hl : l ∈ s.leagues)
    (h : d ∈ r.check l) : d.PointsInto s := by
  have hgame {m : Match} (hm : m ∈ l.games) : m.pos ∈ s.positions .game :=
    List.mem_map_of_mem (List.mem_flatMap_of_mem hl hm)
  have hleague : l.pos ∈ s.positions .league := List.mem_map_of_mem hl
  -- Two rules report matches; one of them has nothing to say when there is no season to compare.
  cases r with
  | matchDateWithinSeason =>
    rw [check, findings] at h
    split at h
    next =>
      obtain ⟨m, hm, rfl⟩ := exists_of_mem_map_map h
      exact ⟨⟨.game, rfl, hgame (List.mem_of_mem_filter hm)⟩,
        ((m.pos.shownIn_append _ _).append _).append _ |>.append _⟩
    next => exact absurd h List.not_mem_nil
  | uniqueMatches =>
    obtain ⟨m, hm, rfl⟩ := exists_of_mem_map_map h
    refine ⟨⟨.game, rfl, hgame (Shape.mem_repeats hm)⟩, ?_⟩
    exact (m.pos.shownIn_append _ _).after _
  | nameStartsUppercase =>
    obtain rfl := eq_of_mem_map_ite h
    exact ⟨⟨.league, rfl, hleague⟩, l.pos.shownIn_append _ _⟩
  | seasonFormat =>
    obtain rfl := eq_of_mem_map_ite h
    exact ⟨⟨.league, rfl, hleague⟩, (l.pos.shownIn_append _ _).append _⟩
  | hasMatches =>
    obtain rfl := eq_of_mem_map_ite h
    exact ⟨⟨.league, rfl, hleague⟩, (l.pos.shownIn_append _ _).append _⟩
  | nameLength =>
    obtain rfl := eq_of_mem_map_ite h
    exact ⟨⟨.league, rfl, hleague⟩, (((l.pos.shownIn_append _ _).append _).append _).append _⟩
  | seasonYearsConsecutive =>
    rw [check, findings] at h
    split at h
    next first last _ =>
      obtain rfl := eq_of_mem_map_ite h
      exact ⟨⟨.league, rfl, hleague⟩, (l.pos.shownIn_append _ _).append _⟩
    next => exact absurd h List.not_mem_nil
  | maxMatches =>
    obtain rfl := eq_of_mem_map_ite h
    exact ⟨⟨.league, rfl, hleague⟩,
      ((((l.pos.shownIn_append _ _).append _).append _).append _).append _⟩

/-- **Rules for matches point at the match.** -/
theorem MatchRule.pointsInto {r : MatchRule} {m : Match} (hm : m ∈ s.games)
    (h : d ∈ r.check m) : d.PointsInto s := by
  have hgame : m.pos ∈ s.positions .game := List.mem_map_of_mem hm
  have hcode : r.code.culprit? = some .game := by cases r <;> rfl
  obtain ⟨message, hmessage, rfl⟩ := List.mem_map.1 h
  refine ⟨⟨.game, hcode, hgame⟩, ?_⟩
  change m.pos.ShownIn message
  cases r with
  | distinctTeams =>
    obtain rfl := eq_of_mem_ite hmessage
    exact ((m.pos.shownIn_append _ _).append _).append _
  | dateFormat =>
    obtain rfl := eq_of_mem_ite hmessage
    exact m.pos.shownIn_append _ _
  | timeFormat =>
    obtain rfl := eq_of_mem_ite hmessage
    exact m.pos.shownIn_append _ _
  | fieldsNotEmpty =>
    obtain ⟨_, -, rfl⟩ := List.mem_map.1 hmessage
    exact m.pos.shownIn_append _ _
  | stadiumMinLength =>
    obtain rfl := eq_of_mem_ite hmessage
    exact (m.pos.shownIn_append _ _).append _
  | scoreNonNegative =>
    obtain ⟨_, -, rfl⟩ := List.mem_map.1 hmessage
    exact (m.pos.shownIn_append _ _).append _
  | scoreUpperBound =>
    obtain ⟨_, -, rfl⟩ := List.mem_map.1 hmessage
    exact m.pos.shownIn_append _ _
  | cityNotBlank =>
    obtain ⟨_, -, rfl⟩ := List.mem_map.1 hmessage
    exact (m.pos.shownIn_append _ _).append _
  | kickoffGranularity =>
    rw [complaints] at hmessage
    split at hmessage
    next =>
      split at hmessage
      next => exact absurd hmessage List.not_mem_nil
      next =>
        rw [List.mem_singleton.1 hmessage]
        exact (m.pos.shownIn_append _ _).append _
    next => exact absurd hmessage List.not_mem_nil

end Rules

/-! ### What a rule set reports -/

/-- What a rule reports at a node of a site points into the site. -/
theorem Rule.pointsInto_of_mem_nodes {s : Site} (r : Rule) :
    ∀ n ∈ s.nodes, ∀ d ∈ r.checkNode n, d.PointsInto s := by
  -- A rule for another kind of nodes reports nothing that could point anywhere.
  have hnone (d : Diagnostic) (h : d ∈ []) : d.PointsInto s := absurd h List.not_mem_nil
  rw [Site.forall_mem_nodes_iff]
  cases r with
  | site r => exact ⟨fun d => r.pointsInto, hnone, fun _ _ => hnone, fun _ _ => hnone,
      fun _ _ => hnone⟩
  | navigation r => exact ⟨hnone, fun d => r.pointsInto, fun _ _ => hnone, fun _ _ => hnone,
      fun _ _ => hnone⟩
  | country r => exact ⟨hnone, hnone, fun c hc d => r.pointsInto hc, fun _ _ => hnone,
      fun _ _ => hnone⟩
  | league r => exact ⟨hnone, hnone, fun _ _ => hnone, fun l hl d => r.pointsInto hl,
      fun _ _ => hnone⟩
  | game r => exact ⟨hnone, hnone, fun _ _ => hnone, fun _ _ => hnone,
      fun m hm d => r.pointsInto hm⟩

/-- **Every violation points at the node to blame**, whichever of the usual rules are registered.
Its position is that of a node of the site, of the kind that its code tells, and its message shows
the line and the column. -/
theorem RuleSet.pointsInto_of_mem_evaluate (rs : List Rule) (s : Site) (d : Diagnostic)
    (h : d ∈ (ofList rs).evaluate s) : d.PointsInto s := by
  rw [evaluate_ofList] at h
  obtain ⟨n, hn, h⟩ := List.mem_flatMap.1 h
  obtain ⟨r, -, hd⟩ := List.mem_flatMap.1 h
  exact r.pointsInto_of_mem_nodes n hn d hd

/-- A site that lists one country twice and declares none. -/
def Site.listedTwice : Site where
  name := "s"
  navigation := { items := [⟨"Spain", ⟨3, 5⟩⟩, ⟨"Spain", ⟨4, 5⟩⟩], pos := ⟨2, 3⟩ }

/-- The report about the second entry, which stands below the first. -/
def Diagnostic.secondEntry : Diagnostic where
  code := ⟨10⟩
  message := "Duplicate navigation item 'Spain' at 4:5. " ++
    "Each country should appear at most once in navigation."
  pos := ⟨4, 5⟩

theorem RuleSet.pointsInto_secondEntry :
    Diagnostic.secondEntry ∈ standard.evaluate Site.listedTwice ∧
      Diagnostic.secondEntry.PointsInto Site.listedTwice :=
  have h : Diagnostic.secondEntry ∈ standard.evaluate Site.listedTwice := by decide +kernel
  ⟨h, pointsInto_of_mem_evaluate Rule.standard _ _ h⟩

end Matchday
