import Matchday.Proofs.Rule.Meaning
import Mathlib.Data.List.Perm.Basic

/-!
# Navigation and countries as a pair

No two rules share a code, so the codes that a rule set reports tell which rules are broken.  Four
of the usual rules are about the names in the navigation block and the names of the countries: each
list names no country twice, and each names only what the other one names.  Only together they make
the two lists the same up to their order.

## Main definitions

* `Rule.pairing`: the four rules.

## Main results

* `RuleSet.forall_code_notMem_iff`: the usual rules report none of some codes when the rules with
  these codes hold.
* `RuleSet.pairing_silent_iff`: when the four rules are silent.
-/

namespace Matchday

/-! ### Codes and broken rules -/

/-- **No two rules share a code.** -/
theorem Rule.eq_of_code_text {q r : Rule} (h : q.code.text = r.code.text) : q = r := by
  have hnodup : (standard.map fun r => r.code.text).Nodup := by decide +kernel
  exact List.inj_on_of_nodup_map hnodup q.mem_standard r.mem_standard h

/-- **The usual rules report none of some codes** exactly when the rules with these codes hold. -/
theorem RuleSet.forall_code_notMem_iff {s : Site} (rs : List Rule) :
    (∀ d ∈ standard.evaluate s, d.code.text ∉ rs.map fun r => r.code.text) ↔
      ∀ r ∈ rs, r.Holds s := by
  constructor
  · intro h r hr
    by_contra hbroken
    obtain ⟨d, hd, hcode⟩ := exists_mem_evaluate_of_not_holds r.mem_standard hbroken
    exact h d hd (List.mem_map.2 ⟨r, hr, by rw [hcode]⟩)
  · intro h d hd hmem
    obtain ⟨r, hr, hcode⟩ := List.mem_map.1 hmem
    obtain ⟨q, -, hq, hbroken⟩ := exists_broken_of_mem_evaluate hd
    obtain rfl : q = r := Rule.eq_of_code_text (by rw [hcode, hq])
    exact hbroken (h q hr)

/-! ### The four rules about names -/

/-- The rules that make the navigation block and the countries name each other. -/
def Rule.pairing : List Rule :=
  [.site .uniqueCountryNames, .site .navigationTargetsExist, .navigation .noDuplicateItems,
    .site .countriesListedInNavigation]

/-- Lists without repetitions that name only what the other one names are the same up to their
order. -/
theorem Rule.holds_pairing_iff {s : Site} :
    (∀ r ∈ pairing, r.Holds s) ↔
      (s.navigation.items.map (·.name)).Nodup ∧ s.countryNames.Nodup ∧
        (s.navigation.items.map (·.name)).Perm s.countryNames := by
  have hrules : (∀ r ∈ pairing, r.Holds s) ↔ s.countryNames.Nodup ∧
      (∀ i ∈ s.navigation.items, i.name ∈ s.countryNames) ∧
      (s.navigation.items.map (·.name)).Nodup ∧
      ∀ c ∈ s.countries, c.name ∈ s.navigation.items.map (·.name) := by
    simp only [pairing, List.forall_mem_cons, List.not_mem_nil, false_implies, implies_true,
      and_true]
    rfl
  rw [hrules]
  constructor
  · rintro ⟨hcountries, htargets, hitems, hlisted⟩
    refine ⟨hitems, hcountries, (List.perm_ext_iff_of_nodup hitems hcountries).2 fun name => ?_⟩
    constructor
    · intro hname
      obtain ⟨i, hi, rfl⟩ := List.mem_map.1 hname
      exact htargets i hi
    · intro hname
      obtain ⟨c, hc, rfl⟩ := List.mem_map.1 hname
      exact hlisted c hc
  · rintro ⟨hitems, hcountries, hperm⟩
    exact ⟨hcountries, fun i hi => hperm.mem_iff.1 (List.mem_map_of_mem hi), hitems,
      fun c hc => hperm.mem_iff.2 (List.mem_map_of_mem hc)⟩

/-- **The navigation block names each country once and nothing else exactly when four of the usual
rules are silent.** -/
theorem RuleSet.pairing_silent_iff (s : Site) :
    (∀ d ∈ standard.evaluate s,
        d.code.text ∉ ["0xFC001", "0xFC004", "0xFC010", "0xFC012"]) ↔
      (s.navigation.items.map (·.name)).Nodup ∧ s.countryNames.Nodup ∧
        (s.navigation.items.map (·.name)).Perm s.countryNames := by
  have hcodes : Rule.pairing.map (fun r => r.code.text) =
      ["0xFC001", "0xFC004", "0xFC010", "0xFC012"] := by decide +kernel
  rw [← Rule.holds_pairing_iff, ← forall_code_notMem_iff, hcodes]

end Matchday
