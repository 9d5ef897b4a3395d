import Matchday.Proofs.Document.Opener
import Matchday.Proofs.Rule.WellFormed

/-!
# Texts that rules leave free

The usual rules fix the characters of dates, times and seasons.  In the names, teams, cities and
stadiums of a document they allow line feeds, and a model text shows these as they are.  So a text
can break a line and begin what looks like the block of a match, and so can a name that ends like
an opener; nothing else can.

## Main definitions

* `Site.freeTexts`: the texts whose characters no rule fixes.

## Main results

* `Site.structure_modelText`: how many openers and how many lines the model text of a site without
  violations has, and when these are the openers and lines of its blocks.
-/

namespace Matchday

open Text

/-! ### Fixed and free texts -/

/-- The texts of a match without its date and its time. -/
def Match.freeTexts (m : Match) : List String :=
  [m.homeTeam, m.homeCity, m.awayTeam, m.awayCity, m.stadium]

/-- The texts of a league without its season and without the dates and times of its matches. -/
def League.freeTexts (l : League) : List String :=
  l.name :: l.games.flatMap Match.freeTexts

/-- The texts of a country that are written without quotes. -/
def Country.freeTexts (c : Country) : List String :=
  c.name :: c.leagues.flatMap League.freeTexts

/-- The texts of a site in which line feeds may stand.  The name of the site comes with the blank
that stands before it, since it may begin with blanks itself. -/
def Site.freeTexts (s : Site) : List String :=
  (" " ++ s.name) :: (s.navigation.items.map (·.name) ++ s.countries.flatMap Country.freeTexts)

/-! Digits and the signs between them are no line feeds. -/

theorem Shape.lineFeed_notMem_padded (width n : Nat) : '\n' ∉ padded width n :=
  fun h => absurd (isDigit_of_mem_padded h) (by decide)

theorem Shape.lineFeed_notMem_season (start stop : Nat) : '\n' ∉ season start stop := by
  simp [season, lineFeed_notMem_padded]

theorem Shape.lineFeed_notMem_date (year month day : Nat) : '\n' ∉ date year month day := by
  simp [date, lineFeed_notMem_padded]

theorem Shape.lineFeed_notMem_clock (hours minutes : Nat) : '\n' ∉ clock hours minutes := by
  simp [clock, lineFeed_notMem_padded]

section Total

variable {f : List Char → Nat}

/-- Dates and times add nothing to what is counted by line feeds. -/
theorem Match.WellFormed.total_texts {start : Nat} {m : Match} (h : m.WellFormed start)
    (hf : ∀ x, '\n' ∉ x → f x = 0) : total f m.texts = total f m.freeTexts := by
  obtain ⟨year, -, -, month, -, day, -, hdate⟩ := h.date
  obtain ⟨hours, -, minutes, -, htime⟩ := h.time
  have hnodate := hf _ (hdate ▸ Shape.lineFeed_notMem_date year month day)
  have hnotime := hf _ (htime ▸ Shape.lineFeed_notMem_clock hours minutes)
  simp only [texts, freeTexts, total_cons, hnodate, hnotime, Nat.zero_add]

theorem League.WellFormed.total_texts {l : League} (h : l.WellFormed)
    (hf : ∀ x, '\n' ∉ x → f x = 0) : total f l.texts = total f l.freeTexts := by
  obtain ⟨start, -, hseason, hgames⟩ := h.season
  have hnoseason := hf _ (hseason ▸ Shape.lineFeed_notMem_season start (start + 1))
  have hmatches := List.map_congr_left fun m hm => (hgames m hm).total_texts hf
  simp only [texts, freeTexts, total_cons, total_flatMap, hnoseason, Nat.zero_add, hmatches]

theorem Country.WellFormed.total_texts {c : Country} (h : c.WellFormed)
    (hf : ∀ x, '\n' ∉ x → f x = 0) : total f c.texts = total f c.freeTexts := by
  have hleagues := List.map_congr_left fun l hl => (h.leagues l hl).total_texts hf
  simp only [texts, freeTexts, total_cons, total_flatMap, hleagues]

theorem Site.total_countries {s : Site} (h : ∀ c ∈ s.countries, c.WellFormed)
    (hf : ∀ x, '\n' ∉ x → f x = 0) :
    total f (s.countries.flatMap Country.texts) =
      total f (s.countries.flatMap Country.freeTexts) := by
  have hcountries := List.map_congr_left fun c hc => (h c hc).total_texts hf
  simp only [total_flatMap, hcountries]

end Total

/-! ### The structure of a model text -/

namespace Site

section Valid

variable {s : Site} (h : RuleSet.standard.evaluate s = [])

include h

theorem wellFormed_countries : ∀ c ∈ s.countries, c.WellFormed :=
  (wellFormed_iff_holds.2 (RuleSet.standard_silent_iff.1 h)).countries

theorem startsUppercase_countries : ∀ c ∈ s.countries, c.NamesStartUppercase := by
  intro c hc
  have hc := wellFormed_countries h c hc
  exact ⟨hc.name_start, fun l hl => (hc.leagues l hl).name_start⟩

/-- An entry of the navigation block has the name of a country. -/
theorem startsUppercase_items : ∀ i ∈ s.navigation.items, Shape.StartsUppercase i.name := by
  intro i hi
  have htargets := RuleSet.standard_silent_iff.1 h (.site .navigationTargetsExist)
  obtain ⟨c, hc, hname⟩ := List.mem_map.1 (htargets i hi)
  exact hname ▸ (wellFormed_countries h c hc).name_start

theorem openers_modelText_of_valid : openers s.modelText.toList =
    s.totalMatches + total openers s.freeTexts +
      s.headings.countP fun x => Match.openerStem <:+ x.toList := by
  have hfixed := total_countries (wellFormed_countries h) fun x hx =>
    openers_of_notMem (by decide) hx
  rw [openers_modelText (startsUppercase_items h) (startsUppercase_countries h), freeTexts,
    total_cons, total_append, total_cons, total_append, hfixed]

theorem count_lineFeed_modelText_of_valid : s.modelText.toList.count '\n' =
    s.lineCount + total (List.count '\n') s.freeTexts := by
  have hfixed := total_countries (wellFormed_countries h) fun x hx =>
    List.count_eq_zero_of_not_mem hx
  rw [count_lineFeed_modelText, freeTexts, texts, total_cons, total_append, total_cons,
    total_append, hfixed]
  simp

/-- **How much of the structure of a model text is that of its site**, when the site has no
violations.  Every match has its opener; there is one more for each that a free text contains, and
for each first line of a block whose name ends like an opener.  Every block has its lines; one more
ends at each line feed in a free text.  So openers and lines are those of the blocks exactly when
no free text has a line feed and no such name ends like an opener. -/
theorem structure_modelText :
    openers s.modelText.toList = s.totalMatches + total openers s.freeTexts +
        s.headings.countP (fun x => Match.openerStem <:+ x.toList) ∧
      s.modelText.toList.count '\n' = s.lineCount + total (List.count '\n') s.freeTexts ∧
      (openers s.modelText.toList = s.totalMatches ∧ s.modelText.toList.count '\n' = s.lineCount ↔
        (∀ x ∈ s.freeTexts, '\n' ∉ x.toList) ∧
          ∀ x ∈ s.headings, ¬ Match.openerStem <:+ x.toList) := by
  have hopeners := openers_modelText_of_valid h
  have hlines := count_lineFeed_modelText_of_valid h
  refine ⟨hopeners, hlines, ?_⟩
  have hfree : total (List.count '\n') s.freeTexts = 0 ↔ ∀ x ∈ s.freeTexts, '\n' ∉ x.toList := by
    simp only [total_eq_zero_iff, List.count_eq_zero]
  have hstems : s.headings.countP (fun x => Match.openerStem <:+ x.toList) = 0 ↔
      ∀ x ∈ s.headings, ¬ Match.openerStem <:+ x.toList := by
    simp only [List.countP_eq_zero, decide_eq_true_eq]
  -- An opener ends in a line feed.
  have hnone (hno : ∀ x ∈ s.freeTexts, '\n' ∉ x.toList) : total openers s.freeTexts = 0 :=
    (total_eq_zero_iff openers).2 fun x hx => openers_of_notMem (by decide) (hno x hx)
  constructor
  · rintro ⟨ho, hl⟩
    have hno := hfree.1 (by omega)
    exact ⟨hno, hstems.1 (by omega)⟩
  · rintro ⟨hno, hheadings⟩
    rw [hopeners, hlines, hnone hno, hfree.2 hno, hstems.2 hheadings]
    exact ⟨rfl, rfl⟩

end Valid

/-- A site with one match, given its own name and the home city of the match. -/
def ofCity (name city : String) : Site :=
  let game : Match := {
    date := "2026-02-15"
    time := "21:00"
    homeTeam := "Real Madrid"
    homeCity := city
    awayTeam := "FC Barcelona"
    awayCity := "Barcelona"
    homeScore := 3
    awayScore := 2
    stadium := "Santiago Bernabéu" }
  let league : League := { name := "LaLiga", season := "2025-2026", games := [game] }
  ofCountries name [{ name := "Spain", leagues := [league] }]

theorem ofCity_structure_modelText :
    RuleSet.standard.evaluate (ofCity "Results" "Madrid") = [] ∧
      openers (ofCity "Results" "Madrid").modelText.toList =
        (ofCity "Results" "Madrid").totalMatches ∧
      (ofCity "Results" "Madrid").modelText.toList.count '\n' =
        (ofCity "Results" "Madrid").lineCount := by
  have hvalid : RuleSet.standard.evaluate (ofCity "Results" "Madrid") = [] := by decide +kernel
  exact ⟨hvalid, (structure_modelText hvalid).2.2.2 ⟨by decide, by decide⟩⟩

/-- A city that breaks its line adds an opener and two lines, and a name with blanks in front makes
an opener of the first line; the rules have nothing against either. -/
theorem ofCity_forges :
    RuleSet.standard.evaluate (ofCity "Results" "Madrid\n      match \x7b\n") = [] ∧
      openers (ofCity "Results" "Madrid\n      match \x7b\n").modelText.toList = 2 ∧
      (ofCity "Results" "Madrid\n      match \x7b\n").totalMatches = 1 ∧
      (ofCity "Results" "Madrid\n      match \x7b\n").modelText.toList.count '\n' = 22 ∧
      (ofCity "Results" "Madrid\n      match \x7b\n").lineCount = 20 ∧
      RuleSet.standard.evaluate (ofCity "     match" "Madrid") = [] ∧
      openers (ofCity "     match" "Madrid").modelText.toList = 2 ∧
      (ofCity "     match" "Madrid").totalMatches = 1 := by
  have hitems (name city : String) :
      ∀ i ∈ (ofCity name city).navigation.items, Shape.StartsUppercase i.name := by
    simp [ofCity, ofCountries, ofNames, Shape.StartsUppercase, isUppercase]
  have hnames (name city : String) :
      ∀ c ∈ (ofCity name city).countries, c.NamesStartUppercase := by
    simp [ofCity, ofCountries, ofNames, Country.NamesStartUppercase, Shape.StartsUppercase,
      isUppercase]
  have hopeners (name city : String) := openers_modelText (hitems name city) (hnames name city)
  rw [hopeners, hopeners, count_lineFeed_modelText]
  decide +kernel

end Site

end Matchday
