import Matchday.Proofs.Document.ModelText
import Matchday.Proofs.Document.Placement
import Mathlib

/-!
# Documents told by their model texts

Model texts escape nothing, and names stand in them without quotes.  Still, a document without
quotes and line feeds in its texts is told by its model text, up to positions: a line feed ends a
name, a quote ends any other text, and the lines with which blocks begin differ from the line with
which the block around them ends.

A way of writing is legible when what is written can be told apart from what follows it.  Legible
blocks make a legible list, if a line follows with which no block begins; so each block is legible
because the blocks inside it are.

## Main definitions

* `Text.IsPlain`: a text without quotes and line feeds.
* `Text.IsLegible`: a way of writing from which what was written is told, whatever follows.

## Main results

* `Text.IsLegible.flatMap`: lists of legible blocks are legible.
* `Site.modelText_eq_modelText_iff`: documents with the same model text differ in positions only.
-/

namespace Matchday

namespace Text

/-- A text with neither of the characters with which names and other texts end. -/
def IsPlain (x : String) : Prop :=
  '"' ∉ x.toList ∧ '\n' ∉ x.toList

instance (x : String) : Decidable (IsPlain x) :=
  inferInstanceAs (Decidable (_ ∧ _))

/-- What comes before the first `c` is told from what comes after it. -/
theorem append_cons_inj {c : Char} {a b x y : List Char} (ha : c ∉ a) (hb : c ∉ b) :
    a ++ c :: x = b ++ c :: y ↔ a = b ∧ x = y := by
  constructor
  · intro h
    induction a generalizing b with
    | nil =>
      cases b with
      | nil => exact ⟨rfl, (List.cons.inj h).2⟩
      | cons d b => exact absurd ((List.cons.inj h).1 ▸ List.mem_cons_self) hb
    | cons d a ih =>
      rw [List.mem_cons, not_or] at ha
      cases b with
      | nil => exact absurd (List.cons.inj h).1.symm ha.1
      | cons e b =>
        obtain ⟨rfl, htail⟩ := List.cons.inj h
        obtain ⟨rfl, hrest⟩ := ih ha.2 (fun hc => hb (List.mem_cons_of_mem _ hc)) htail
        exact ⟨rfl, hrest⟩
  · rintro ⟨rfl, rfl⟩
    rfl

/-- A text is told from a separator with a character that the text does not have, also when the
separator begins with others. -/
theorem append_separator_inj {c : Char} {a b separator x y : List Char} (ha : c ∉ a) (hb : c ∉ b)
    (hc : c ∈ separator) : a ++ (separator ++ x) = b ++ (separator ++ y) ↔ a = b ∧ x = y := by
  obtain ⟨stem, tail, rfl, hstem⟩ := List.eq_append_cons_of_mem hc
  have hcut (z w : List Char) :
      z ++ (stem ++ c :: tail ++ w) = (z ++ stem) ++ c :: (tail ++ w) := by
    simp only [List.append_assoc, List.cons_append]
  have ha' : c ∉ a ++ stem := by simp only [List.mem_append, ha, hstem, or_self, not_false_eq_true]
  have hb' : c ∉ b ++ stem := by simp only [List.mem_append, hb, hstem, or_self, not_false_eq_true]
  rw [hcut, hcut, append_cons_inj ha' hb', List.append_left_inj, List.append_right_inj]

theorem inQuotes_append_inj {x y : String} {rest rest' : List Char} (hx : IsPlain x)
    (hy : IsPlain y) : inQuotes x ++ rest = inQuotes y ++ rest' ↔ x = y ∧ rest = rest' := by
  simp only [inQuotes, List.cons_append, List.append_assoc, List.nil_append, List.cons.injEq,
    true_and, append_cons_inj hx.1 hy.1, String.toList_inj]

/-- A way of writing that can be read: a text that begins with something written tells what was
written, as far as `view` shows it, and where it ends. -/
def IsLegible {α β : Type} (P : α → Prop) (view : α → β) (write : α → List Char) : Prop :=
  ∀ ⦃a b : α⦄, P a → P b → ∀ ⦃x y : List Char⦄, write a ++ x = write b ++ y →
    view a = view b ∧ x = y

/-- **Lists of legible blocks are legible** when a line follows with which no block begins. -/
theorem IsLegible.flatMap {α β : Type} {P : α → Prop} {view : α → β} {write : α → List Char}
    (h : IsLegible P view write) {stop : List Char} (hstop : ∀ a x y, write a ++ x ≠ stop ++ y)
    {as bs : List α} (has : ∀ a ∈ as, P a) (hbs : ∀ b ∈ bs, P b) {x y : List Char}
    (heq : as.flatMap write ++ (stop ++ x) = bs.flatMap write ++ (stop ++ y)) :
    as.map view = bs.map view ∧ x = y := by
  induction as generalizing bs with
  | nil =>
    cases bs with
    | nil => exact ⟨rfl, List.append_cancel_left heq⟩
    | cons b bs =>
      rw [List.flatMap_cons, List.append_assoc] at heq
      exact absurd heq.symm (hstop b _ _)
  | cons a as ih =>
    cases bs with
    | nil =>
      rw [List.flatMap_cons, List.append_assoc] at heq
      exact absurd heq (hstop a _ _)
    | cons b bs =>
      rw [List.forall_mem_cons] at has hbs
      simp only [List.flatMap_cons, List.append_assoc] at heq
      obtain ⟨hview, hrest⟩ := h has.1 hbs.1 heq
      obtain ⟨hviews, hend⟩ := ih has.2 hbs.2 hrest
      exact ⟨by rw [List.map_cons, List.map_cons, hview, hviews], hend⟩

end Text

open Text

/-! ### Blocks -/

/-- A score is followed by a blank or a line feed, which are not among its characters. -/
theorem repr_append_separator_inj (c : Char) (separator : String) {n k : Int} {x y : List Char}
    (hdigit : c.isDigit = false) (hminus : c ≠ '-') (hc : c ∈ separator.toList) :
    n.repr.toList ++ (separator.toList ++ x) = k.repr.toList ++ (separator.toList ++ y) ↔
      n = k ∧ x = y := by
  rw [append_separator_inj (notMem_repr hdigit hminus n) (notMem_repr hdigit hminus k) hc,
    String.toList_inj, Int.repr_inj]

theorem Match.isLegible :
    IsLegible (fun m : Match => ∀ x ∈ m.texts, IsPlain x) (·.at {})
      fun m => m.modelText.toList := by
  intro m k hm hk x y h
  simp only [texts, List.forall_mem_cons, List.not_mem_nil, false_imp_iff, implies_true,
    and_true] at hm hk
  obtain ⟨hdate, htime, hhome, hhomeCity, haway, hawayCity, hstadium⟩ := hm
  obtain ⟨hdate', htime', hhome', hhomeCity', haway', hawayCity', hstadium'⟩ := hk
  simp only [toList_modelText, List.append_assoc, List.append_cancel_left_eq,
    inQuotes_append_inj hdate hdate', inQuotes_append_inj htime htime',
    inQuotes_append_inj hhome hhome', inQuotes_append_inj hhomeCity hhomeCity',
    inQuotes_append_inj haway haway', inQuotes_append_inj hawayCity hawayCity',
    repr_append_separator_inj ' ' " - " (by decide) (by decide) (by decide),
    repr_append_separator_inj '\n' "\n        stadium " (by decide) (by decide) (by decide),
    inQuotes_append_inj hstadium hstadium', Int32.toInt_inj] at h
  obtain ⟨date, time, home, homeCity, away, awayCity, homeScore, awayScore, stadium, hrest⟩ := h
  refine ⟨?_, hrest⟩
  simp only [«at», date, time, home, homeCity, away, awayCity, homeScore, awayScore, stadium]

/-- No match begins as its league ends, and so for the blocks around it. -/
theorem Match.modelText_append_ne (m : Match) (x y : List Char) :
    m.modelText.toList ++ x ≠ "    \x7d\n".toList ++ y := by
  simp [toList_modelText]

theorem League.modelText_append_ne (l : League) (x y : List Char) :
    l.modelText.toList ++ x ≠ "  \x7d\n".toList ++ y := by
  simp [toList_modelText]

theorem Country.modelText_line_append_ne (c : Country) (x y : List Char) :
    c.modelText.toList ++ "\n".toList ++ x ≠ "\x7d\n".toList ++ y := by
  simp [toList_modelText]

theorem NavItem.modelText_append_ne (i : NavItem) (x y : List Char) :
    i.modelText.toList ++ x ≠ "  \x7d\n\n".toList ++ y := by
  simp [toList_modelText]

theorem League.isLegible :
    IsLegible (fun l : League => ∀ x ∈ l.texts, IsPlain x) League.unplaced
      fun l => l.modelText.toList := by
  intro l k hl hk x y h
  simp only [texts, List.forall_mem_cons, List.forall_mem_flatMap] at hl hk
  obtain ⟨hname, hseason, hgames⟩ := hl
  obtain ⟨hname', hseason', hgames'⟩ := hk
  -- The name is not quoted: it ends before the quote with which the season begins.
  have hquote : '"' ∈ " season \"".toList := by decide
  have hopen (z : String) (rest : List Char) : " season ".toList ++ (inQuotes z ++ rest) =
      " season \"".toList ++ (z.toList ++ '"' :: rest) := by
    simp [inQuotes]
  simp only [toList_modelText, List.append_assoc, List.cons_append, List.append_cancel_left_eq,
    hopen, append_separator_inj hname.1 hname'.1 hquote, append_cons_inj hseason.1 hseason'.1,
    String.toList_inj] at h
  obtain ⟨name, season, h⟩ := h
  obtain ⟨games, hrest⟩ := Match.isLegible.flatMap Match.modelText_append_ne hgames hgames' h
  refine ⟨?_, hrest⟩
  simp only [unplaced, name, season, games]

theorem Country.isLegible :
    IsLegible (fun c : Country => ∀ x ∈ c.texts, IsPlain x) Country.unplaced
      fun c => c.modelText.toList := by
  intro c k hc hk x y h
  simp only [texts, List.forall_mem_cons, List.forall_mem_flatMap] at hc hk
  obtain ⟨hname, hleagues⟩ := hc
  obtain ⟨hname', hleagues'⟩ := hk
  have hline : '\n' ∈ " \x7b\n".toList := by decide
  simp only [toList_modelText, List.append_assoc, List.append_cancel_left_eq,
    append_separator_inj hname.2 hname'.2 hline, String.toList_inj] at h
  obtain ⟨name, h⟩ := h
  obtain ⟨leagues, hrest⟩ :=
    League.isLegible.flatMap League.modelText_append_ne hleagues hleagues' h
  refine ⟨?_, hrest⟩
  simp only [unplaced, name, leagues]

/-- A country with the empty line that follows it in the text of a site. -/
theorem Country.isLegible_line :
    IsLegible (fun c : Country => ∀ x ∈ c.texts, IsPlain x) Country.unplaced
      fun c => c.modelText.toList ++ "\n".toList := by
  intro c k hc hk x y h
  rw [List.append_assoc, List.append_assoc] at h
  obtain ⟨hunplaced, hrest⟩ := Country.isLegible hc hk h
  exact ⟨hunplaced, List.append_cancel_left hrest⟩

theorem NavItem.isLegible :
    IsLegible (fun i : NavItem => IsPlain i.name) (fun i => ({ name := i.name } : NavItem))
      fun i => i.modelText.toList := by
  intro i k hi hk x y h
  have hline : '\n' ∈ ";\n".toList := by decide
  simp only [toList_modelText, List.append_assoc, List.append_cancel_left_eq,
    append_separator_inj hi.2 hk.2 hline, String.toList_inj] at h
  exact ⟨by simp only [h.1], h.2⟩

/-! ### Sites -/

theorem Site.unplaced_eq_of_modelText_eq {s t : Site} (hs : ∀ x ∈ s.texts, IsPlain x)
    (ht : ∀ x ∈ t.texts, IsPlain x) (h : s.modelText = t.modelText) : s.unplaced = t.unplaced := by
  simp only [texts, List.forall_mem_cons, List.forall_mem_append, List.forall_mem_map,
    List.forall_mem_flatMap] at hs ht
  obtain ⟨hname, hitems, hcountries⟩ := hs
  obtain ⟨hname', hitems', hcountries'⟩ := ht
  have hline : '\n' ∈ " \x7b\n".toList := by decide
  have htext := congrArg String.toList h
  simp only [toList_modelText, List.append_assoc, List.append_cancel_left_eq,
    append_separator_inj hname.2 hname'.2 hline, String.toList_inj] at htext
  obtain ⟨name, htext⟩ := htext
  obtain ⟨items, htext⟩ :=
    NavItem.isLegible.flatMap NavItem.modelText_append_ne hitems hitems' htext
  rw [← List.append_nil "\x7d\n".toList] at htext
  obtain ⟨countries, -⟩ :=
    Country.isLegible_line.flatMap Country.modelText_line_append_ne hcountries hcountries' htext
  simp only [unplaced, Navigation.unplaced, name, items, countries]

/-- **A document without quotes and line feeds in its texts is told by its model text**, up to
positions. -/
theorem Site.modelText_eq_modelText_iff {s t : Site} (hs : ∀ x ∈ s.texts, IsPlain x)
    (ht : ∀ x ∈ t.texts, IsPlain x) : s.modelText = t.modelText ↔ s.unplaced = t.unplaced := by
  refine ⟨Site.unplaced_eq_of_modelText_eq hs ht, fun h => ?_⟩
  rw [← s.modelText_unplaced, h, t.modelText_unplaced]

/-- A site with names that look like pieces of blocks, and one match of the score given. -/
def Site.entangled (homeScore awayScore : Int32) (pos : Position) : Site :=
  let game : Match := {
    date := "match \x7b"
    time := ""
    homeTeam := "a    ("
    homeCity := ")"
    awayTeam := "score   1 - 2"
    awayCity := " - "
    homeScore
    awayScore
    stadium := "      \x7d"
    pos }
  let league : League := { name := "season 1 season", season := " season ", games := [game], pos }
  let country : Country := { name := "  country \x7b \x7b", leagues := [league, league], pos }
  { name := "a \x7b"
    navigation := { items := [{ name := "  \x7d", pos }, { name := ";;", pos }], pos }
    countries := [{ name := "", pos }, country]
    pos }

/-- Scores are told apart with their signs, and nothing else is told of the positions. -/
theorem Site.entangled_modelText_eq_modelText_iff :
    (∀ x ∈ (entangled (-1) 2 {}).texts, IsPlain x) ∧
      (∀ x ∈ (entangled 1 (-2) {}).texts, IsPlain x) ∧
      (∀ x ∈ (entangled (-1) 2 ⟨3, 7⟩).texts, IsPlain x) ∧
      (entangled (-1) 2 {}).modelText ≠ (entangled 1 (-2) {}).modelText ∧
      (entangled (-1) 2 {}).modelText = (entangled (-1) 2 ⟨3, 7⟩).modelText := by
  have hleft : ∀ x ∈ (entangled (-1) 2 {}).texts, IsPlain x := by decide
  have hright : ∀ x ∈ (entangled 1 (-2) {}).texts, IsPlain x := by decide
  have hplaced : ∀ x ∈ (entangled (-1) 2 ⟨3, 7⟩).texts, IsPlain x := by decide
  refine ⟨hleft, hright, hplaced, fun h => ?_, (modelText_eq_modelText_iff hleft hplaced).2 rfl⟩
  exact absurd ((modelText_eq_modelText_iff hleft hright).1 h) (by decide)

end Matchday
