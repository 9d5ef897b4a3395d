import Matchday.Document.Model
import Mathlib.Data.List.Basic

/-!
# Model texts in characters

A model text is made of blocks, one for each node of the document.  In a block stand the texts of
the node, between pieces that are the same in all blocks of the kind: names as they are, all other
texts in quotes.

## Main definitions

* `Match.texts`, `League.texts`, `Country.texts`, `Site.texts`: the texts of a node.
* `Text.inQuotes`: a text in quotes.

## Main results

* `Match.toList_modelText`, `League.toList_modelText`, `Country.toList_modelText`,
  `NavItem.toList_modelText`, `Site.toList_modelText`: the characters of each block.
-/

namespace Matchday

/-- A text in quotes, as it is. -/
def Text.inQuotes (x : String) : List Char :=
  '"' :: x.toList ++ ['"']

/-! ### The texts of a document -/

/-- The texts of a match, in the order of the model text. -/
def Match.texts (m : Match) : List String :=
  [m.date, m.time, m.homeTeam, m.homeCity, m.awayTeam, m.awayCity, m.stadium]

/-- The texts of a league, those of its matches last. -/
def League.texts (l : League) : List String :=
  l.name :: l.season :: l.games.flatMap Match.texts

/-- The texts of a country, those of its leagues last. -/
def Country.texts (c : Country) : List String :=
  c.name :: c.leagues.flatMap League.texts

/-- All texts of a site, in the order of its model text. -/
def Site.texts (s : Site) : List String :=
  s.name :: (s.navigation.items.map (·.name) ++ s.countries.flatMap Country.texts)

/-! ### The characters of a model text -/

theorem Text.toString_eq (x : String) : toString x = x := rfl

/-- The characters of a number are digits, after a minus sign if it is negative. -/
theorem notMem_repr {c : Char} (hdigit : c.isDigit = false) (hminus : c ≠ '-') (n : Int) :
    c ∉ n.repr.toList := by
  have hnat (m : Nat) : c ∉ m.repr.toList := by
    rw [Nat.toList_repr]
    intro hc
    rw [Nat.isDigit_of_mem_toDigits (by decide) (by decide) hc] at hdigit
    contradiction
  rw [Int.repr_eq_if]
  split
  · exact hnat _
  · rw [String.toList_append, List.mem_append, not_or]
    exact ⟨by simpa using hminus, hnat _⟩

theorem Match.toList_modelText (m : Match) : m.modelText.toList =
    "      match \x7b\n        date    ".toList ++ Text.inQuotes m.date ++
    "\n        time    ".toList ++ Text.inQuotes m.time ++
    "\n        home    ".toList ++ Text.inQuotes m.homeTeam ++
    "    (".toList ++ Text.inQuotes m.homeCity ++
    ")\n        away    ".toList ++ Text.inQuotes m.awayTeam ++
    "    (".toList ++ Text.inQuotes m.awayCity ++
    ")\n        score   ".toList ++ m.homeScore.toInt.repr.toList ++
    " - ".toList ++ m.awayScore.toInt.repr.toList ++
    "\n        stadium ".toList ++ Text.inQuotes m.stadium ++
    "\n      \x7d\n".toList := by
  unfold modelText
  simp only [Text.toString_eq, Int.toString_eq_repr, String.toList_append, Text.inQuotes]
  simp

theorem League.toList_modelText (l : League) : l.modelText.toList =
    "    league ".toList ++ l.name.toList ++ " season ".toList ++ Text.inQuotes l.season ++
    " \x7b\n".toList ++ l.games.flatMap (fun m => m.modelText.toList) ++ "    \x7d\n".toList := by
  unfold modelText
  simp only [Text.toString_eq, String.toList_append, String.toList_join, List.flatMap_map,
    Text.inQuotes]
  simp

theorem Country.toList_modelText (c : Country) : c.modelText.toList =
    "  country ".toList ++ c.name.toList ++ " \x7b\n".toList ++
    c.leagues.flatMap (fun l => l.modelText.toList) ++ "  \x7d\n".toList := by
  unfold modelText
  simp only [Text.toString_eq, String.toList_append, String.toList_join, List.flatMap_map]

theorem NavItem.toList_modelText (i : NavItem) : i.modelText.toList =
    "    ".toList ++ i.name.toList ++ ";\n".toList := by
  unfold modelText
  simp only [Text.toString_eq, String.toList_append]

theorem Site.toList_modelText (s : Site) : s.modelText.toList =
    "footballsite ".toList ++ s.name.toList ++ " \x7b\n".toList ++
    "\n  navigation \x7b\n".toList ++
    s.navigation.items.flatMap (fun i => i.modelText.toList) ++ "  \x7d\n\n".toList ++
    s.countries.flatMap (fun c => c.modelText.toList ++ "\n".toList) ++ "\x7d\n".toList := by
  unfold modelText
  simp only [Text.toString_eq, String.toList_append, String.toList_join, List.flatMap_map]
  simp

end Matchday
