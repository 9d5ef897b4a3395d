import Matchday.Rule.Set

/-!
# The walk over a document

A rule set visits the nodes of a document in document order and runs the rules for its kind at each
of them.  A rule says nothing about nodes of another kind, so at a node one may as well run all
rules of a list in the order in which they were registered.  What a set of usual rules reports is in
this way told by the sequence of registrations alone, without the lists that they are kept in.

## Main definitions

* `NodeKind`, `Node`: the nodes of documents, and their kinds.
* `Site.nodes`: the nodes of a document, in the order of the walk.
* `Rule.checkNode`, `RuleSet.checkNode`: the violations by one node.

## Main results

* `RuleSet.evaluate_eq_flatMap`: a rule set reports what it finds at the nodes, one after another.
* `RuleSet.checkNode_ofList`: at a node the registered rules report in the order of registration.
-/

namespace Matchday

/-- The kinds of nodes that rules look at. -/
inductive NodeKind where
  | site
  | navigation
  | country
  | league
  | game
deriving DecidableEq, Repr

/-- A node of a document, with everything below it. -/
inductive Node where
  | site (s : Site)
  | navigation (n : Navigation)
  | country (c : Country)
  | league (l : League)
  | game (m : Match)
deriving Repr

/-- The kind of a node. -/
def Node.kind : Node → NodeKind
  | site _ => .site
  | navigation _ => .navigation
  | country _ => .country
  | league _ => .league
  | game _ => .game

/-- A league, then its matches. -/
def League.nodes (l : League) : List Node :=
  .league l :: l.games.map .game

/-- A country, then its leagues. -/
def Country.nodes (c : Country) : List Node :=
  .country c :: c.leagues.flatMap League.nodes

/-- The nodes of a document, in the order of the walk. -/
def Site.nodes (s : Site) : List Node :=
  .site s :: .navigation s.navigation :: s.countries.flatMap Country.nodes

namespace Rule

/-- The kind of the nodes that a rule looks at. -/
def kind : Rule → NodeKind
  | site _ => .site
  | navigation _ => .navigation
  | country _ => .country
  | league _ => .league
  | game _ => .game

/-- The violations of a usual rule by a node.  There are none by nodes of another kind. -/
def checkNode : Rule → Node → List Diagnostic
  | site r, .site s => r.check s
  | navigation r, .navigation n => r.check n
  | country r, .country c => r.check c
  | league r, .league l => r.check l
  | game r, .game m => r.check m
  | _, _ => []

theorem checkNode_eq_nil_of_kind_ne {r : Rule} {n : Node} (h : r.kind ≠ n.kind) :
    r.checkNode n = [] := by
  fun_cases checkNode r n
  case case6 => rfl
  all_goals exact absurd rfl h

/-- All violations that one rule reports carry one code. -/
theorem code_of_mem_map {α : Type} {code : RuleCode} {report : α → Diagnostic} {xs : List α}
    {d : Diagnostic} (hcode : ∀ x, (report x).code = code) (h : d ∈ xs.map report) :
    d.code = code := by
  obtain ⟨x, -, rfl⟩ := List.mem_map.1 h
  exact hcode x

/-- **A rule reports only under its own code.** -/
theorem code_of_mem_checkNode {r : Rule} {n : Node} {d : Diagnostic} (h : d ∈ r.checkNode n) :
    d.code = r.code := by
  revert h
  fun_cases checkNode r n
  case case6 => exact fun h => absurd h List.not_mem_nil
  all_goals exact code_of_mem_map fun _ => rfl

end Rule

namespace RuleSet

/-- The violations by a node. -/
def checkNode (rules : RuleSet) : Node → List Diagnostic
  | .site s => rules.site.flatMap (·.check s)
  | .navigation n => rules.navigation.flatMap (·.check n)
  | .country c => rules.country.flatMap (·.check c)
  | .league l => rules.league.flatMap (·.check l)
  | .game m => rules.checkMatch m

/-! ### The nodes one after another -/

section Nodes

variable (rules : RuleSet)

theorem checkLeague_eq_flatMap (l : League) :
    rules.checkLeague l = l.nodes.flatMap rules.checkNode := by
  rw [checkLeague, League.nodes, List.flatMap_cons, List.flatMap_map]
  rfl

theorem checkCountry_eq_flatMap (c : Country) :
    rules.checkCountry c = c.nodes.flatMap rules.checkNode := by
  rw [checkCountry, Country.nodes, List.flatMap_cons, List.flatMap_assoc,
    funext rules.checkLeague_eq_flatMap]
  rfl

/-- **A rule set reports what it finds at the nodes, one after another.** -/
theorem evaluate_eq_flatMap (s : Site) :
    rules.evaluate s = s.nodes.flatMap rules.checkNode := by
  rw [evaluate, Site.nodes, List.flatMap_cons, List.flatMap_cons, List.flatMap_assoc,
    funext rules.checkCountry_eq_flatMap, List.append_assoc]
  rfl

end Nodes

/-! ### The rules in the order of registration -/

/-- A rule that is registered reports behind the others. -/
theorem checkNode_register (rules : RuleSet) (r : Rule) (n : Node) :
    (rules.register r).checkNode n = rules.checkNode n ++ r.checkNode n := by
  cases r <;> cases n <;> simp [register, checkNode, checkMatch, Rule.checkNode, SiteRule.asRule,
    NavigationRule.asRule, CountryRule.asRule, LeagueRule.asRule, MatchRule.asRule]

theorem checkNode_foldl_register (rules : RuleSet) (rs : List Rule) (n : Node) :
    (rs.foldl register rules).checkNode n = rules.checkNode n ++ rs.flatMap (·.checkNode n) := by
  induction rs generalizing rules with
  | nil => simp
  | cons r rs ih =>
    rw [List.foldl_cons, ih, checkNode_register, List.flatMap_cons, List.append_assoc]

/-- **At a node the registered rules report in the order of registration.** -/
theorem checkNode_ofList (rs : List Rule) (n : Node) :
    (ofList rs).checkNode n = rs.flatMap (·.checkNode n) := by
  have hempty : empty.checkNode n = [] := by cases n <;> rfl
  rw [ofList, checkNode_foldl_register, hempty, List.nil_append]

/-- **What usual rules report**: at each node what one rule after another finds there. -/
theorem evaluate_ofList (rs : List Rule) (s : Site) :
    (ofList rs).evaluate s = s.nodes.flatMap fun n => rs.flatMap (·.checkNode n) := by
  rw [evaluate_eq_flatMap, funext (checkNode_ofList rs)]

end RuleSet

end Matchday
