import Matchday.Proofs.Rule.Shape
import Matchday.Rule.Set
import Mathlib.Data.Fin.Tuple.Basic
import Mathlib.Data.Finset.Card
import Mathlib.Data.List.FinRange

/-!
# Repetitions are found exactly

Four rules look for repetitions in a list: of country names, of league names, of names in the
navigation block and of matches.  The search goes through the list once and keeps the keys that it
has seen.  When it reaches an element these are the keys in front of it, so what it finds in a
longer list is what it finds without the last element, and the last element if its key is one of
them.

## Main definitions

* `Shape.repeatIndices`: the indices of a list whose key belongs to an earlier index.
* `ReportsRepeats`: a report about each of these indices.

## Main results

* `Shape.repeats_eq_map_repeatIndices`: the search finds the elements at these indices, in order.
* `Shape.length_repeats_add_card`: it finds all but one element for each key.
* `repeats_reported`: what the four rules report.
-/

namespace Matchday

namespace Shape

variable {α κ : Type} [DecidableEq κ] {key : α → κ}

/-! ### The search from the end of the list -/

/-- The last element is found when its key has been seen before the search or in front of it. -/
theorem repeatsAfter_concat (seen : List κ) (xs : List α) (x : α) :
    repeatsAfter key seen (xs ++ [x]) =
      repeatsAfter key seen xs ++ if key x ∈ seen ∨ key x ∈ xs.map key then [x] else [] := by
  induction xs generalizing seen with
  | nil => simp [repeatsAfter]
  | cons y ys ih =>
    rw [List.cons_append, repeatsAfter, repeatsAfter, ih, ih, List.map_cons]
    by_cases hy : key y ∈ seen
    · have hmem : key x ∈ seen ∨ key x ∈ ys.map key ↔
          key x ∈ seen ∨ key x ∈ key y :: ys.map key := by
        grind
      rw [if_pos hy, if_pos hy, List.cons_append, if_congr hmem rfl rfl]
    · have hmem : key x ∈ key y :: seen ∨ key x ∈ ys.map key ↔
          key x ∈ seen ∨ key x ∈ key y :: ys.map key := by
        grind
      rw [if_neg hy, if_neg hy, if_congr hmem rfl rfl]

theorem repeats_concat (xs : List α) (x : α) :
    repeats key (xs ++ [x]) = repeats key xs ++ if key x ∈ xs.map key then [x] else [] := by
  simp [repeats, repeatsAfter_concat]

/-! ### Indices -/

theorem exists_lt_castSucc_iff {n : Nat} {i : Fin n} {p : Fin (n + 1) → Prop} :
    (∃ j < i.castSucc, p j) ↔ ∃ j < i, p j.castSucc := by
  rw [Fin.exists_iff_castSucc]
  simp [(Fin.castSucc_lt_last i).not_gt]

theorem exists_lt_last_iff {n : Nat} {p : Fin (n + 1) → Prop} :
    (∃ j < Fin.last n, p j) ↔ ∃ j : Fin n, p j.castSucc := by
  simp [Fin.exists_iff_castSucc, Fin.castSucc_lt_last]

theorem repeats_ofFn {n : Nat} (f : Fin n → α) :
    repeats key (List.ofFn f) =
      ((List.finRange n).filter fun i => ∃ j < i, key (f j) = key (f i)).map f := by
  induction n with
  | zero => rfl
  | succ n ih =>
    have hlast : key (f (Fin.last n)) ∈ (List.ofFn fun i : Fin n => f i.castSucc).map key ↔
        ∃ j < Fin.last n, key (f j) = key (f (Fin.last n)) := by
      simp [exists_lt_last_iff]
    rw [List.ofFn_succ_last, repeats_concat, ih, if_congr hlast rfl rfl,
      List.finRange_succ_last, List.filter_append, List.map_append, List.filter_map, List.map_map]
    simp only [Function.comp_def, exists_lt_castSucc_iff]
    congr 1
    by_cases h : ∃ j < Fin.last n, key (f j) = key (f (Fin.last n))
    · rw [if_pos h, List.filter_cons, if_pos (decide_eq_true h)]
      rfl
    · rw [if_neg h, List.filter_cons, if_neg (mt of_decide_eq_true h)]
      rfl

/-- The indices of a list whose key belongs to an earlier index, in ascending order. -/
def repeatIndices (key : α → κ) (xs : List α) : List (Fin xs.length) :=
  (List.finRange xs.length).filter fun i => ∃ j < i, key xs[j] = key xs[i]

/-- **The search finds the elements whose key belongs to an earlier index**, in order. -/
theorem repeats_eq_map_repeatIndices (xs : List α) :
    repeats key xs = (repeatIndices key xs).map fun i => xs[i] := by
  have hsearch : repeats key (List.ofFn xs.get) = (repeatIndices key xs).map xs.get :=
    repeats_ofFn xs.get
  rwa [List.ofFn_get] at hsearch

/-- **The search leaves one element for each key.** -/
theorem length_repeats_add_card (xs : List α) :
    (repeats key xs).length + (xs.map key).toFinset.card = xs.length := by
  induction xs using List.reverseRecOn with
  | nil => rfl
  | append_singleton xs x ih =>
    have hkeys : ((xs ++ [x]).map key).toFinset = insert (key x) (xs.map key).toFinset := by
      simp
    rw [repeats_concat, hkeys, List.length_append, List.length_append, List.length_singleton]
    by_cases hx : key x ∈ xs.map key
    · rw [if_pos hx, Finset.insert_eq_of_mem (List.mem_toFinset.2 hx), List.length_singleton]
      omega
    · rw [if_neg hx, Finset.card_insert_of_notMem (mt List.mem_toFinset.1 hx), List.length_nil]
      omega

end Shape

/-! ### The four rules -/

/-- A report about the elements of a list whose key belongs to an earlier one: in order, each at
its own position and with a text of its own. -/
structure ReportsRepeats {α κ : Type} [DecidableEq κ] (code : RuleCode) (key : α → κ)
    (pos : α → Position) (xs : List α) (report : List Diagnostic) : Prop where
  eq_map : ∃ message : α → String,
    report = (Shape.repeatIndices key xs).map fun i => ⟨code, message xs[i], pos xs[i]⟩
  length_eq : report.length = xs.length - (xs.map key).toFinset.card

theorem ReportsRepeats.of_repeats {α κ : Type} [DecidableEq κ] {code : RuleCode} {key : α → κ}
    {pos : α → Position} {xs : List α} (message : α → String) :
    ReportsRepeats code key pos xs
      (((Shape.repeats key xs).map fun x => (pos x, message x)).map fun (pos, message) =>
        ⟨code, message, pos⟩) where
  eq_map := by
    refine ⟨message, ?_⟩
    rw [Shape.repeats_eq_map_repeatIndices, List.map_map, List.map_map]
    rfl
  length_eq := by
    have hcount : (Shape.repeats key xs).length + (xs.map key).toFinset.card = xs.length :=
      Shape.length_repeats_add_card xs
    rw [List.length_map, List.length_map]
    omega

/-- **Repetitions are reported exactly.**  Each of the four rules reports the elements of its list
whose key belongs to an earlier element, in order and each at its own position, and so one report
for each element beyond the first with its key. -/
theorem repeats_reported :
    (∀ s : Site, ReportsRepeats ⟨1⟩ (·.name) (·.pos) s.countries
      (SiteRule.uniqueCountryNames.check s)) ∧
    (∀ c : Country, ReportsRepeats ⟨5⟩ (·.name) (·.pos) c.leagues
      (CountryRule.uniqueLeagueNames.check c)) ∧
    (∀ n : Navigation, ReportsRepeats ⟨10⟩ (·.name) (·.pos) n.items
      (NavigationRule.noDuplicateItems.check n)) ∧
    ∀ l : League, ReportsRepeats ⟨17⟩ (fun m => (m.date, m.time, m.homeTeam, m.awayTeam)) (·.pos)
      l.games (LeagueRule.uniqueMatches.check l) :=
  ⟨fun _ => .of_repeats _, fun _ => .of_repeats _, fun _ => .of_repeats _,
    fun _ => .of_repeats _⟩

end Matchday
