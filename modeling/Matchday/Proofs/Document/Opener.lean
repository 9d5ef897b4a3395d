import Matchday.Proofs.Document.Lines
import Matchday.Proofs.Rule.Shape
import Matchday.Proofs.Text.Occurrence

/-!
# Openers of matches in model texts

The block of a match begins with a line of its own, the opener.  In a model text it stands once for
each match.  It also stands where a text contains it, for texts are written as they are, and where
a name ends like an opener and the line goes on as an opener does, with a blank and a brace.  A
name that begins with an uppercase letter makes no opener with the blanks before it.

The openers of a text are counted part by part.  Quotes keep a text apart from what stands around
it, and the end of a block keeps it apart from what follows.

## Main definitions

* `Match.opener`: the line with which the block of a match begins.
* `Text.openers`: the number of openers in a text.
* `Site.headings`: the names before the first line of a block.

## Main results

* `Match.openers_modelText`, `League.openers_modelText`, `Country.openers_modelText`,
  `NavItem.openers_modelText`: the openers in each kind of block.
* `Site.openers_modelText`: the openers in a model text.
-/

namespace Matchday

open Text

/-- The line with which the block of a match begins. -/
def Match.opener : String := "      match \x7b\n"

/-- An opener without what follows a name in the line that begins a block. -/
def Match.openerStem : List Char := "      match".toList

namespace Text

/-! ### Openers in parts of a text -/

/-- The number of openers in a text. -/
def openers (text : List Char) : Nat :=
  occurrences Match.opener.toList text

theorem opener_ne_nil : Match.opener.toList ≠ [] := by decide

theorem openers_eq (text : List Char) :
    openers text = occurrences ("      match \x7b".toList ++ ['\n']) text := rfl

theorem openers_nil : openers [] = 0 :=
  occurrences_nil opener_ne_nil

theorem openers_of_notMem {c : Char} {text : List Char} (hc : c ∈ Match.opener.toList)
    (h : c ∉ text) : openers text = 0 :=
  occurrences_of_notMem hc h

theorem openers_append_cons {c : Char} (hc : c ∉ Match.opener.toList) (a b : List Char) :
    openers (a ++ c :: b) = openers a + openers b :=
  occurrences_append_cons opener_ne_nil hc a b

theorem openers_append_of_notMem {b : List Char} (hb : '\n' ∉ b) (a : List Char) :
    openers (a ++ b) = openers a := by
  rw [openers_eq, openers_eq, occurrences_append_of_notMem hb]

/-- Quotes keep a text apart from what stands around it. -/
theorem openers_append_inQuotes (a : List Char) (x : String) (b : List Char) :
    openers (a ++ (inQuotes x ++ b)) = openers a + (openers x.toList + openers b) := by
  have hsplit := openers_append_cons (show '"' ∉ Match.opener.toList by decide)
  rw [inQuotes, List.cons_append, List.cons_append, List.append_assoc, List.singleton_append,
    hsplit, hsplit]

/-- What follows a line has openers of its own. -/
theorem openers_append {a : List Char} (h : '\n' ∈ a.getLast?) (b : List Char) :
    openers (a ++ b) = openers a + openers b := by
  obtain ⟨a, rfl⟩ := List.getLast?_eq_some_iff.1 h
  rw [openers_eq, openers_eq, openers_eq, occurrences_line_append (by decide)]

theorem openers_flatMap_append {α : Type} {write : α → List Char}
    (h : ∀ a, '\n' ∈ (write a).getLast?) (as : List α) (b : List Char) :
    openers (as.flatMap write ++ b) = (as.map fun a => openers (write a)).sum + openers b := by
  induction as with
  | nil => exact (Nat.zero_add _).symm
  | cons a as ih =>
    rw [List.flatMap_cons, List.append_assoc, openers_append (h a), ih, List.map_cons,
      List.sum_cons, Nat.add_assoc]

/-- The line that begins a block after a name is an opener when the name ends like one. -/
theorem openers_append_brace (a : List Char) :
    openers (a ++ " \x7b\n".toList) = openers a + if Match.openerStem <:+ a then 1 else 0 := by
  have hline : a ++ " \x7b\n".toList = (a ++ " \x7b".toList) ++ '\n' :: [] := by
    rw [List.append_assoc]
    rfl
  have hstem : "      match \x7b".toList <:+ a ++ " \x7b".toList ↔ Match.openerStem <:+ a :=
    @List.suffix_append_self_iff _ Match.openerStem a " \x7b".toList
  rw [hline, openers_eq, occurrences_line (by decide), occurrences_nil (by decide), Nat.add_zero,
    occurrences_append_of_notMem (by decide), if_congr hstem rfl rfl, openers_eq]

/-- No occurrence begins before a name and ends in it, if the name begins with an uppercase
letter. -/
theorem openers_lead_append_name {name : String} (h : Shape.StartsUppercase name)
    {lead rest : List Char} (hlead : openers lead = 0)
    (hrest : openers (lead ++ rest) = openers rest) :
    openers (lead ++ (name.toList ++ rest)) = openers (name.toList ++ rest) := by
  have hupper : ∀ c ∈ Match.opener.toList, isUppercase c = false := by
    simp [Match.opener, isUppercase]
  cases hname : name.toList with
  | nil => exact hrest
  | cons c cs =>
    have hc : c ∉ Match.opener.toList := by
      refine fun hmem => Bool.false_ne_true ?_
      rw [← hupper c hmem, h c (by rw [hname]; rfl)]
    have hfirst := openers_append_cons hc [] (cs ++ rest)
    rw [List.nil_append, openers_nil] at hfirst
    rw [List.cons_append, openers_append_cons hc, hfirst, hlead]

end Text

/-! ### Openers in blocks -/

theorem Match.lineFeed_mem_getLast? (m : Match) : '\n' ∈ m.modelText.toList.getLast? :=
  toList_modelText _ ▸ List.mem_getLast?_append_of_mem_getLast? rfl

theorem League.lineFeed_mem_getLast? (l : League) : '\n' ∈ l.modelText.toList.getLast? :=
  toList_modelText _ ▸ List.mem_getLast?_append_of_mem_getLast? rfl

theorem Country.lineFeed_mem_getLast? (c : Country) : '\n' ∈ c.modelText.toList.getLast? :=
  toList_modelText _ ▸ List.mem_getLast?_append_of_mem_getLast? rfl

theorem NavItem.lineFeed_mem_getLast? (i : NavItem) : '\n' ∈ i.modelText.toList.getLast? :=
  toList_modelText _ ▸ List.mem_getLast?_append_of_mem_getLast? rfl

/-- A match has one opener and those in its texts. -/
theorem Match.openers_modelText (m : Match) :
    openers m.modelText.toList = 1 + total openers m.texts := by
  let score : List Char := ")\n        score   ".toList ++ m.homeScore.toInt.repr.toList ++
    " - ".toList ++ m.awayScore.toInt.repr.toList ++ "\n        stadium ".toList
  have hscore : openers score = 0 := by
    have hrepr := notMem_repr (c := '\x7b') (by decide) (by decide)
    refine openers_of_notMem (c := '\x7b') (by decide) ?_
    simp only [score, List.mem_append, hrepr, or_false, not_or]
    decide
  have htext : m.modelText.toList = "      match \x7b\n        date    ".toList ++
      (inQuotes m.date ++ ("\n        time    ".toList ++
      (inQuotes m.time ++ ("\n        home    ".toList ++
      (inQuotes m.homeTeam ++ ("    (".toList ++
      (inQuotes m.homeCity ++ (")\n        away    ".toList ++
      (inQuotes m.awayTeam ++ ("    (".toList ++
      (inQuotes m.awayCity ++ (score ++
      (inQuotes m.stadium ++ "\n      \x7d\n".toList))))))))))))) := by
    simp only [toList_modelText, score, List.append_assoc]
  have hfirst : openers "      match \x7b\n        date    ".toList = 1 := by decide
  have hrest : ∀ piece ∈ ["\n        time    ", "\n        home    ", "    (",
      ")\n        away    ", "\n      \x7d\n"], openers piece.toList = 0 := by
    decide
  simp only [List.forall_mem_cons] at hrest
  obtain ⟨htime, hhome, hcity, haway, hlast, -⟩ := hrest
  simp only [htext, openers_append_inQuotes, hfirst, htime, hhome, hcity, haway, hscore, hlast,
    texts, total_cons, total_nil, Nat.zero_add]

theorem League.openers_modelText {l : League} (h : Shape.StartsUppercase l.name) :
    openers l.modelText.toList = l.games.length + total openers l.texts := by
  have htext : l.modelText.toList =
      ("    league ".toList ++ (l.name.toList ++ " season ".toList)) ++
      (inQuotes l.season ++ (" \x7b\n".toList ++
      (l.games.flatMap (fun m => m.modelText.toList) ++ "    \x7d\n".toList))) := by
    simp only [toList_modelText, List.append_assoc]
  have hname : openers ("    league ".toList ++ (l.name.toList ++ " season ".toList)) =
      openers l.name.toList := by
    rw [openers_lead_append_name h (by decide) (by decide), openers_append_of_notMem (by decide)]
  have hgames : (l.games.map fun m => openers m.modelText.toList).sum =
      l.games.length + (l.games.map fun m => total openers m.texts).sum := by
    simp only [Match.openers_modelText, List.sum_map_add]
    simp
  have hbrace : openers " \x7b\n".toList = 0 := by decide
  have hlast : openers "    \x7d\n".toList = 0 := by decide
  rw [htext, openers_append_inQuotes, hname, openers_append (by decide),
    openers_flatMap_append Match.lineFeed_mem_getLast?, hgames, hbrace, hlast, texts, total_cons,
    total_cons, total_flatMap]
  omega

/-- The name of a country and those of its leagues begin as rules ask for. -/
def Country.NamesStartUppercase (c : Country) : Prop :=
  Shape.StartsUppercase c.name ∧ ∀ l ∈ c.leagues, Shape.StartsUppercase l.name

theorem Country.openers_modelText {c : Country} (h : c.NamesStartUppercase) :
    openers c.modelText.toList = (c.leagues.map fun l => l.games.length).sum +
      total openers c.texts + if Match.openerStem <:+ c.name.toList then 1 else 0 := by
  have htext : c.modelText.toList = "  country ".toList ++ (c.name.toList ++ " \x7b\n".toList) ++
      (c.leagues.flatMap (fun l => l.modelText.toList) ++ "  \x7d\n".toList) := by
    simp only [toList_modelText, List.append_assoc]
  have hline : '\n' ∈ ("  country ".toList ++ (c.name.toList ++ " \x7b\n".toList)).getLast? :=
    List.mem_getLast?_append_of_mem_getLast? (List.mem_getLast?_append_of_mem_getLast? rfl)
  have hsum : (c.leagues.map fun l => openers l.modelText.toList).sum =
      (c.leagues.map fun l => l.games.length).sum +
        (c.leagues.map fun l => total openers l.texts).sum := by
    rw [← List.sum_map_add]
    exact congrArg List.sum (List.map_congr_left fun l hl => League.openers_modelText (h.2 l hl))
  have hlast : openers "  \x7d\n".toList = 0 := by decide
  rw [htext, openers_append hline,
    openers_lead_append_name h.1 (by decide) (by decide),
    openers_append_brace, openers_flatMap_append League.lineFeed_mem_getLast?, hsum, hlast, texts,
    total_cons, total_flatMap]
  omega

theorem NavItem.openers_modelText {i : NavItem} (h : Shape.StartsUppercase i.name) :
    openers i.modelText.toList = openers i.name.toList := by
  have hlast : openers "\n".toList = 0 := by decide
  have hend : i.name.toList ++ ";\n".toList = i.name.toList ++ ';' :: "\n".toList := rfl
  rw [toList_modelText, List.append_assoc, openers_lead_append_name h (by decide) (by decide), hend,
    openers_append_cons (by decide), hlast, Nat.add_zero]

/-! ### Openers in sites -/

/-- The names before the first line of a block, with the blank before the name of the site. -/
def Site.headings (s : Site) : List String :=
  (" " ++ s.name) :: s.countryNames

theorem Site.totalMatches_eq_sum (s : Site) : s.totalMatches =
    (s.countries.map fun c => (c.leagues.map fun l => l.games.length).sum).sum := by
  rw [totalMatches, leagues, List.flatMap_assoc, List.length_flatMap]
  simp only [List.length_flatMap]

/-- The openers in the countries of a site, each with the empty line that follows it. -/
theorem Country.sum_openers_modelText {cs : List Country} (h : ∀ c ∈ cs, c.NamesStartUppercase) :
    (cs.map fun c => openers (c.modelText.toList ++ "\n".toList)).sum =
      (cs.map fun c => (c.leagues.map fun l => l.games.length).sum).sum +
        total openers (cs.flatMap Country.texts) +
        (cs.map (·.name)).countP fun x => Match.openerStem <:+ x.toList := by
  induction cs with
  | nil => rfl
  | cons c cs ih =>
    rw [List.forall_mem_cons] at h
    have hline : openers "\n".toList = 0 := by decide
    rw [List.map_cons, List.sum_cons, openers_append c.lineFeed_mem_getLast?,
      Country.openers_modelText h.1, hline, ih h.2, List.map_cons, List.sum_cons,
      List.flatMap_cons, total_append, List.map_cons, List.countP_cons]
    simp only [decide_eq_true_eq]
    omega

/-- The name of a site may begin with blanks, so the blank before it counts too. -/
theorem Site.openers_firstLine (s : Site) :
    openers ("footballsite ".toList ++ (s.name.toList ++ " \x7b\n".toList)) =
      openers (" " ++ s.name).toList +
        if Match.openerStem <:+ (" " ++ s.name).toList then 1 else 0 := by
  have hline : "footballsite ".toList ++ (s.name.toList ++ " \x7b\n".toList) =
      "footballsit".toList ++ 'e' :: ((" " ++ s.name).toList ++ " \x7b\n".toList) := by
    simp
  have hkeyword : openers "footballsit".toList = 0 := by decide
  rw [hline, openers_append_cons (by decide), openers_append_brace, hkeyword, Nat.zero_add]

/-- **The openers in the model text of a site** whose names below its own begin with uppercase
letters: one for each match, those in the texts, and those that names make of the lines in which
blocks begin. -/
theorem Site.openers_modelText {s : Site}
    (hitems : ∀ i ∈ s.navigation.items, Shape.StartsUppercase i.name)
    (hcountries : ∀ c ∈ s.countries, c.NamesStartUppercase) :
    openers s.modelText.toList = s.totalMatches +
      total openers ((" " ++ s.name) ::
        (s.navigation.items.map (·.name) ++ s.countries.flatMap Country.texts)) +
      s.headings.countP fun x => Match.openerStem <:+ x.toList := by
  have htext : s.modelText.toList =
      "footballsite ".toList ++ (s.name.toList ++ " \x7b\n".toList) ++
      ("\n  navigation \x7b\n".toList ++
      (s.navigation.items.flatMap (fun i => i.modelText.toList) ++ ("  \x7d\n\n".toList ++
      (s.countries.flatMap (fun c => c.modelText.toList ++ "\n".toList) ++ "\x7d\n".toList)))) := by
    simp only [toList_modelText, List.append_assoc]
  have hline : '\n' ∈ ("footballsite ".toList ++ (s.name.toList ++ " \x7b\n".toList)).getLast? :=
    List.mem_getLast?_append_of_mem_getLast? (List.mem_getLast?_append_of_mem_getLast? rfl)
  have hnames : (s.navigation.items.map fun i => openers i.modelText.toList).sum =
      total openers (s.navigation.items.map (·.name)) := by
    rw [total, List.map_map]
    exact congrArg List.sum
      (List.map_congr_left fun i hi => NavItem.openers_modelText (hitems i hi))
  have hopen : openers "\n  navigation \x7b\n".toList = 0 := by decide
  have hclose : openers "  \x7d\n\n".toList = 0 := by decide
  have hlast : openers "\x7d\n".toList = 0 := by decide
  rw [htext, openers_append hline, s.openers_firstLine,
    openers_append (by decide), openers_flatMap_append NavItem.lineFeed_mem_getLast?, hnames,
    openers_append (by decide),
    openers_flatMap_append fun c => List.mem_getLast?_append_of_mem_getLast? rfl,
    Country.sum_openers_modelText hcountries, ← s.totalMatches_eq_sum, hopen, hclose, hlast,
    total_cons, total_append, headings, List.countP_cons, countryNames]
  simp only [decide_eq_true_eq]
  omega

end Matchday
