import Matchday.Proofs.Document.ModelText
import Mathlib

/-!
# The lines of a model text

Each node has its own number of lines in a model text: eight for a match, two around the matches of
a league, two around the leagues of a country with an empty line after it, and six for the site and
its navigation block with a line for each entry.  On top of these come the line feeds in the texts
of the document, which are written as they are.

## Main definitions

* `Text.total`: what the characters of texts add up to.
* `League.lineCount`, `Country.lineCount`, `Site.lineCount`: the numbers of lines.

## Main results

* `Site.count_lineFeed_modelText`: the line feeds in the model text of any site.
-/

namespace Matchday

/-! ### Totals -/

/-- What the characters of some texts add up to, by a number for each text. -/
def Text.total (f : List Char → Nat) (xs : List String) : Nat :=
  (xs.map fun x => f x.toList).sum

namespace Text

variable (f : List Char → Nat)

@[simp] theorem total_nil : total f [] = 0 := rfl

@[simp] theorem total_cons (x : String) (xs : List String) :
    total f (x :: xs) = f x.toList + total f xs := by
  rw [total, List.map_cons, List.sum_cons, total]

@[simp] theorem total_append (xs ys : List String) :
    total f (xs ++ ys) = total f xs + total f ys := by
  rw [total, List.map_append, List.sum_append, total, total]

theorem total_flatMap {α : Type} (texts : α → List String) (as : List α) :
    total f (as.flatMap texts) = (as.map fun a => total f (texts a)).sum := by
  induction as with
  | nil => rfl
  | cons a as ih => rw [List.flatMap_cons, total_append, ih, List.map_cons, List.sum_cons]

theorem total_eq_zero_iff {xs : List String} : total f xs = 0 ↔ ∀ x ∈ xs, f x.toList = 0 := by
  induction xs with
  | nil => simp
  | cons x xs ih => rw [total_cons, Nat.add_eq_zero_iff, ih, List.forall_mem_cons]

end Text

open Text

/-! ### Line feeds -/

/-- The lines of a league: one before and one after its matches, and eight for each of these. -/
def League.lineCount (l : League) : Nat :=
  2 + 8 * l.games.length

/-- The lines of a country, with the empty line after it. -/
def Country.lineCount (c : Country) : Nat :=
  3 + (c.leagues.map League.lineCount).sum

/-- The number of lines of the model text of a site. -/
def Site.lineCount (s : Site) : Nat :=
  6 + s.navigation.items.length + (s.countries.map Country.lineCount).sum

theorem count_inQuotes (x : String) : (inQuotes x).count '\n' = x.toList.count '\n' := by
  simp [inQuotes]

theorem Match.count_lineFeed_modelText (m : Match) :
    m.modelText.toList.count '\n' = 8 + total (List.count '\n') m.texts := by
  have hscore (n : Int) : n.repr.toList.count '\n' = 0 :=
    List.count_eq_zero_of_not_mem (notMem_repr (by decide) (by decide) n)
  simp only [toList_modelText, List.count_append, count_inQuotes, hscore, texts, total_cons,
    total_nil]
  simp
  omega

theorem League.count_lineFeed_modelText (l : League) :
    l.modelText.toList.count '\n' = l.lineCount + total (List.count '\n') l.texts := by
  have hgames : (l.games.map fun m => m.modelText.toList.count '\n').sum =
      8 * l.games.length + (l.games.map fun m => total (List.count '\n') m.texts).sum := by
    simp only [Match.count_lineFeed_modelText, List.sum_map_add]
    simp
    omega
  simp only [toList_modelText, List.count_append, List.count_flatMap, Function.comp_def, hgames,
    count_inQuotes, lineCount, texts, total_cons, total_flatMap]
  simp
  omega

theorem Country.count_lineFeed_modelText (c : Country) :
    c.modelText.toList.count '\n' + 1 = c.lineCount + total (List.count '\n') c.texts := by
  simp only [toList_modelText, List.count_append, List.count_flatMap, Function.comp_def,
    League.count_lineFeed_modelText, List.sum_map_add, lineCount, texts, total_cons, total_flatMap]
  simp
  omega

/-- **The lines of a model text are those of its blocks and those in its texts.** -/
theorem Site.count_lineFeed_modelText (s : Site) :
    s.modelText.toList.count '\n' = s.lineCount + total (List.count '\n') s.texts := by
  have hitem (i : NavItem) : i.modelText.toList.count '\n' = 1 + i.name.toList.count '\n' := by
    rw [NavItem.toList_modelText, List.count_append, List.count_append]
    simp
    omega
  have hcountry (c : Country) : (c.modelText.toList ++ "\n".toList).count '\n' =
      c.lineCount + total (List.count '\n') c.texts := by
    rw [List.count_append, ← c.count_lineFeed_modelText]
    rfl
  have hnames : total (List.count '\n') (s.navigation.items.map (·.name)) =
      (s.navigation.items.map fun i => i.name.toList.count '\n').sum := by
    rw [total, List.map_map]
    rfl
  simp only [toList_modelText, List.count_append, List.count_flatMap, Function.comp_def, hitem,
    hcountry, List.sum_map_add, lineCount, texts, total_cons, total_append, total_flatMap, hnames]
  simp
  omega

end Matchday
