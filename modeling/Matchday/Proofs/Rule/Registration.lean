import Matchday.Proofs.Rule.Walk
import Mathlib.Data.List.Perm.Basic

/-!
# The registration of rules

Each rule reports for itself.  What it reports in the company of other rules is what it reports
alone, and in which order rules are registered matters only for the order of their violations at one
node, and there only among rules for the same kind of node.

## Main definitions

* `RuleSet.EntryLE`: the ascending order of codes and names.
* `Site.unfinished`: a site that breaks rules for several kinds of nodes.

## Main results

* `RuleSet.filter_evaluate_ofList`: the violations with one code are those of the rules with it.
* `RuleSet.perm_evaluate_ofList`: the same rules in another order report the same violations.
-/

namespace Matchday

/-- Elements that contribute nothing may be left out. -/
theorem flatMap_filter_of_eq_nil {α β : Type} {xs : List α} {p : α → Bool} {f : α → List β}
    (h : ∀ x ∈ xs, p x = false → f x = []) : (xs.filter p).flatMap f = xs.flatMap f := by
  induction xs with
  | nil => rfl
  | cons x xs ih =>
    rw [List.forall_mem_cons] at h
    rw [List.flatMap_cons, List.filter_cons]
    split
    next => rw [List.flatMap_cons, ih h.2]
    next hx => rw [ih h.2, h.1 (Bool.eq_false_iff.2 hx), List.nil_append]

/-! ### One code -/

namespace Rule

variable {r : Rule} {n : Node} {c : RuleCode}

theorem filter_checkNode_of_code_eq (h : r.code = c) :
    (r.checkNode n).filter (·.code = c) = r.checkNode n := by
  rw [List.filter_eq_self]
  intro d hd
  rw [decide_eq_true_eq, code_of_mem_checkNode hd, h]

theorem filter_checkNode_of_code_ne (h : r.code ≠ c) :
    (r.checkNode n).filter (·.code = c) = [] := by
  rw [List.filter_eq_nil_iff]
  intro d hd
  rwa [decide_eq_true_eq, code_of_mem_checkNode hd]

end Rule

namespace RuleSet

/-- **The violations with one code are those that the rules with this code report alone**, in the
same order, whatever other rules are registered before, between and behind them. -/
theorem filter_evaluate_ofList (rs : List Rule) (s : Site) (c : RuleCode) :
    ((ofList rs).evaluate s).filter (·.code = c) =
      (ofList (rs.filter (·.code = c))).evaluate s := by
  rw [evaluate_ofList, evaluate_ofList, List.filter_flatMap]
  refine List.flatMap_congr fun n _ => ?_
  have hothers : ∀ r ∈ rs, decide (r.code = c) = false →
      (r.checkNode n).filter (·.code = c) = [] := fun r _ hr =>
    Rule.filter_checkNode_of_code_ne (of_decide_eq_false hr)
  rw [List.filter_flatMap, ← flatMap_filter_of_eq_nil hothers]
  refine List.flatMap_congr fun r hr => Rule.filter_checkNode_of_code_eq ?_
  exact of_decide_eq_true (List.mem_filter.1 hr).2

/-! ### Another order -/

/-- Code and name of a rule before those of another one, or the same. -/
def EntryLE (a b : RuleCode × String) : Prop :=
  a.1.number < b.1.number ∨ a.1 = b.1 ∧ a.2 ≤ b.2

theorem entryBefore_eq_true_iff {a b : RuleCode × String} : entryBefore a b ↔ EntryLE a b := by
  simp [entryBefore, EntryLE]

namespace EntryLE

variable {a b c : RuleCode × String}

theorem trans (hab : EntryLE a b) (hbc : EntryLE b c) : EntryLE a c := by
  rcases hab with hab | ⟨hab, hnames⟩
  · rcases hbc with hbc | ⟨hbc, -⟩
    · exact Or.inl (UInt16.lt_trans hab hbc)
    · exact Or.inl (hbc ▸ hab)
  · rcases hbc with hbc | ⟨hbc, hnames'⟩
    · exact Or.inl (hab ▸ hbc)
    · exact Or.inr ⟨hab.trans hbc, String.le_trans hnames hnames'⟩

theorem total (a b : RuleCode × String) : EntryLE a b ∨ EntryLE b a := by
  by_cases hcode : a.1 = b.1
  · rcases String.le_total a.2 b.2 with hname | hname
    · exact Or.inl (Or.inr ⟨hcode, hname⟩)
    · exact Or.inr (Or.inr ⟨hcode.symm, hname⟩)
  · have hnumber : a.1.number ≠ b.1.number := fun h => hcode (congrArg RuleCode.mk h)
    exact (UInt16.lt_or_lt_of_ne hnumber).imp Or.inl Or.inl

theorem antisymm (hab : EntryLE a b) (hba : EntryLE b a) : a = b := by
  rcases hab with hab | ⟨hab, hnames⟩
  · rcases hba with hba | ⟨hba, -⟩
    · exact absurd (UInt16.lt_trans hab hba) (UInt16.lt_irrefl _)
    · exact absurd (hba ▸ hab) (UInt16.lt_irrefl _)
  · rcases hba with hba | ⟨-, hnames'⟩
    · exact absurd (hab ▸ hba) (UInt16.lt_irrefl _)
    · exact Prod.ext hab (String.le_antisymm hnames hnames')

end EntryLE

theorem entries_register_perm (rules : RuleSet) (r : Rule) :
    (rules.register r).entries.Perm ((r.code, r.name) :: rules.entries) := by
  rw [List.perm_iff_count]
  intro entry
  cases r <;> simp only [register, entries, entriesOf, List.map_append, List.map_cons, List.map_nil,
    List.count_append, List.count_cons, List.count_nil, Rule.code, Rule.name, SiteRule.asRule,
    NavigationRule.asRule, CountryRule.asRule, LeagueRule.asRule, MatchRule.asRule] <;> omega

theorem entries_foldl_register_perm (rules : RuleSet) (rs : List Rule) :
    (rs.foldl register rules).entries.Perm
      (rs.map (fun r => (r.code, r.name)) ++ rules.entries) := by
  induction rs generalizing rules with
  | nil => exact List.Perm.refl _
  | cons r rs ih =>
    exact (ih _).trans (((rules.entries_register_perm r).append_left _).trans List.perm_middle)

/-- A rule set has the rules that were registered. -/
theorem registered_ofList_perm (rs : List Rule) :
    (ofList rs).registered.Perm (rs.map fun r => (r.code, r.name)) := by
  have hperm := empty.entries_foldl_register_perm rs
  rw [show empty.entries = [] from rfl, List.append_nil] at hperm
  exact (List.mergeSort_perm _ _).trans hperm

theorem pairwise_registered (rules : RuleSet) : rules.registered.Pairwise EntryLE := by
  have hsorted : rules.registered.Pairwise (entryBefore · ·) := by
    refine List.pairwise_mergeSort (fun a b c hab hbc => ?_) (fun a b => ?_) _
    · rw [entryBefore_eq_true_iff] at hab hbc ⊢
      exact hab.trans hbc
    · rw [Bool.or_eq_true, entryBefore_eq_true_iff, entryBefore_eq_true_iff]
      exact EntryLE.total a b
  exact hsorted.imp entryBefore_eq_true_iff.1

variable {rs rs' : List Rule}

/-- Only one list of the registered codes and names is in ascending order. -/
theorem registered_ofList_congr (h : rs.Perm rs') :
    (ofList rs).registered = (ofList rs').registered := by
  refine List.Perm.eq_of_pairwise (fun _ _ _ _ hab hba => hab.antisymm hba)
    (pairwise_registered _) (pairwise_registered _) ?_
  exact (registered_ofList_perm rs).trans
    ((h.map _).trans (registered_ofList_perm rs').symm)

theorem evaluate_ofList_perm (h : rs.Perm rs') (s : Site) :
    ((ofList rs).evaluate s).Perm ((ofList rs').evaluate s) := by
  rw [evaluate_ofList, evaluate_ofList]
  exact List.Perm.flatMap_left _ fun n _ => h.flatMap_right _

/-- At a node only the rules for its kind report. -/
theorem checkNode_ofList_filter (rs : List Rule) (n : Node) :
    (ofList (rs.filter (·.kind = n.kind))).checkNode n = (ofList rs).checkNode n := by
  rw [checkNode_ofList, checkNode_ofList]
  refine flatMap_filter_of_eq_nil fun r _ hr => ?_
  exact Rule.checkNode_eq_nil_of_kind_ne (of_decide_eq_false hr)

theorem evaluate_ofList_congr
    (h : ∀ k : NodeKind, rs.filter (·.kind = k) = rs'.filter (·.kind = k)) (s : Site) :
    (ofList rs).evaluate s = (ofList rs').evaluate s := by
  rw [evaluate_eq_flatMap, evaluate_eq_flatMap]
  refine List.flatMap_congr fun n _ => ?_
  rw [← checkNode_ofList_filter rs, ← checkNode_ofList_filter rs', h]

/-- **The same rules in another order report the same violations.**  They are listed alike, in
ascending order; and when the rules for each kind of node keep their order, the violations are also
reported in the same order. -/
theorem perm_evaluate_ofList (h : rs.Perm rs') :
    (ofList rs).registered = (ofList rs').registered ∧
      (ofList rs).registered.Perm (rs.map fun r => (r.code, r.name)) ∧
      (ofList rs).registered.Pairwise EntryLE ∧
      (∀ s, ((ofList rs).evaluate s).Perm ((ofList rs').evaluate s)) ∧
      ((∀ k : NodeKind, rs.filter (·.kind = k) = rs'.filter (·.kind = k)) →
        ∀ s, (ofList rs).evaluate s = (ofList rs').evaluate s) :=
  ⟨registered_ofList_congr h, registered_ofList_perm rs, pairwise_registered _,
    evaluate_ofList_perm h, evaluate_ofList_congr⟩

end RuleSet

/-- A site with a misspelt country, a season that is none and no matches. -/
def Site.unfinished : Site :=
  ofCountries "Results" [{
    name := "spain"
    leagues := [{ name := "LaLiga", season := "2025" }] }]

/-- Rules for leagues with a rule for countries between them, one of them registered twice. -/
def Rule.leaguesFirst : List Rule :=
  [.league .seasonFormat, .country .nameStartsUppercase, .league .hasMatches,
    .league .seasonFormat]

/-- The same rules, those for leagues in the same order. -/
def Rule.countriesFirst : List Rule :=
  [.country .nameStartsUppercase, .league .seasonFormat, .league .hasMatches,
    .league .seasonFormat]

/-- Two orders of four rules, which report the same. -/
theorem RuleSet.unfinished_perm_evaluate :
    Rule.leaguesFirst.Perm Rule.countriesFirst ∧
      (ofList Rule.leaguesFirst).registered = (ofList Rule.countriesFirst).registered ∧
      (∀ k : NodeKind, Rule.leaguesFirst.filter (·.kind = k) =
        Rule.countriesFirst.filter (·.kind = k)) ∧
      ((ofList Rule.leaguesFirst).evaluate .unfinished).map (·.code.text) =
        ["0xFC011", "0xFC009", "0xFC016", "0xFC009"] ∧
      (ofList Rule.leaguesFirst).evaluate .unfinished =
        (ofList Rule.countriesFirst).evaluate .unfinished := by
  have hperm : Rule.leaguesFirst.Perm Rule.countriesFirst := List.Perm.swap ..
  have hkinds (k : NodeKind) : Rule.leaguesFirst.filter (·.kind = k) =
      Rule.countriesFirst.filter (·.kind = k) := by cases k <;> rfl
  obtain ⟨hregistered, -, -, -, hevaluate⟩ := perm_evaluate_ofList hperm
  exact ⟨hperm, hregistered, hkinds, by decide +kernel, hevaluate hkinds .unfinished⟩

end Matchday
