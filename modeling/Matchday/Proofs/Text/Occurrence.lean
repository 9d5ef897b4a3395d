import Mathlib.Data.List.Infix

/-!
# Occurrences of a pattern

How often a pattern occurs in a text that is put together from parts.  The occurrences in the parts
add up, unless an occurrence begins in one part and ends in another one.  A character that the
pattern does not have keeps parts apart; so does the character with which the pattern ends, if it
has it nowhere else.

## Main definitions

* `Text.occurrences`: the number of places in a text where a pattern occurs.

## Main results

* `Text.occurrences_append`: parts with no occurrence across their border.
* `Text.occurrences_append_separator`: the occurrences that end with a part of a text are told by
  what stands before the part.
-/

namespace Matchday.Text

/-- The number of places in a text where a pattern begins that is contained in the text. -/
def occurrences (pattern text : List Char) : Nat :=
  text.tails.countP pattern.isPrefixOf

variable {p q a b : List Char} {c d : Char}

theorem occurrences_nil (hp : p ≠ []) : occurrences p [] = 0 := by
  cases p with
  | nil => exact absurd rfl hp
  | cons c p => rfl

theorem occurrences_cons (p : List Char) (c : Char) (a : List Char) :
    occurrences p (c :: a) = occurrences p a + if p <+: c :: a then 1 else 0 := by
  simp only [occurrences, List.tails_cons, List.countP_cons, List.isPrefixOf_iff_prefix]

/-- Nothing occurs in a text that lacks one of its characters. -/
theorem occurrences_of_notMem (hc : c ∈ p) (ha : c ∉ a) : occurrences p a = 0 := by
  rw [occurrences, List.countP_eq_zero]
  intro u hu hpu
  rw [List.isPrefixOf_iff_prefix] at hpu
  exact ha (((List.mem_tails _ _).1 hu).subset (hpu.subset hc))

/-! ### Two parts -/

/-- What begins a text of two parts begins the first part or ends in the second one. -/
theorem prefix_append_iff : p <+: a ++ b ↔ p <+: a ∨ ∃ r, r ≠ [] ∧ r <+: b ∧ p = a ++ r := by
  constructor
  · intro h
    rcases List.prefix_or_prefix_of_prefix h (List.prefix_append a b) with hpa | ⟨r, rfl⟩
    · exact Or.inl hpa
    · rw [List.prefix_append_right_inj] at h
      by_cases hr : r = []
      · exact Or.inl (by rw [hr, List.append_nil])
      · exact Or.inr ⟨r, hr, h, rfl⟩
  · rintro (h | ⟨r, -, h, rfl⟩)
    · exact h.trans (List.prefix_append a b)
    · rwa [List.prefix_append_right_inj]

/-- The second of two parts holds the end of the whole. -/
theorem exists_of_concat_eq_append {r : List Char} (h : q ++ [d] = a ++ r) (hr : r ≠ []) :
    ∃ s, r = s ++ [d] ∧ q = a ++ s := by
  obtain ⟨s, e, rfl⟩ := (List.eq_nil_or_concat r).resolve_left hr
  rw [List.concat_eq_append, ← List.append_assoc] at h
  obtain ⟨hq, hd⟩ := List.append_inj' h rfl
  exact ⟨s, by rw [List.concat_eq_append, hd], hq⟩

/-- **Occurrences in two parts add up** when none begins in the first part and ends in the
second. -/
theorem occurrences_append (hp : p ≠ [])
    (h : ∀ u r, u <:+ a → u ≠ [] → r <+: b → r ≠ [] → p ≠ u ++ r) :
    occurrences p (a ++ b) = occurrences p a + occurrences p b := by
  induction a with
  | nil => rw [List.nil_append, occurrences_nil hp, Nat.zero_add]
  | cons c a ih =>
    have hstart : p <+: (c :: a) ++ b ↔ p <+: c :: a := by
      rw [prefix_append_iff, or_iff_left_iff_imp]
      rintro ⟨r, hr, hrb, hpr⟩
      exact absurd hpr (h _ r List.suffix_rfl (List.cons_ne_nil c a) hrb hr)
    rw [List.cons_append, occurrences_cons, occurrences_cons, ← List.cons_append,
      ih fun u r hu => h u r (hu.trans (List.suffix_cons c a)), if_congr hstart rfl rfl]
    omega

/-- A character that the pattern does not have keeps parts apart. -/
theorem occurrences_append_cons (hp : p ≠ []) (hc : c ∉ p) (a b : List Char) :
    occurrences p (a ++ c :: b) = occurrences p a + occurrences p b := by
  have hborder : ∀ u r, u <:+ a → u ≠ [] → r <+: c :: b → r ≠ [] → p ≠ u ++ r := by
    rintro u r - - hr hne rfl
    obtain ⟨e, r, rfl⟩ := List.exists_cons_of_ne_nil hne
    rw [(List.cons_prefix_cons.1 hr).1] at hc
    exact hc (List.mem_append_right u List.mem_cons_self)
  have hstart : ¬ p <+: c :: b := by
    intro h
    obtain ⟨e, r, rfl⟩ := List.exists_cons_of_ne_nil hp
    rw [(List.cons_prefix_cons.1 h).1] at hc
    exact hc List.mem_cons_self
  rw [occurrences_append hp hborder, occurrences_cons, if_neg hstart, Nat.add_zero]

/-! ### Patterns that end lines -/

/-- No occurrence ends in a part without the character with which the pattern ends. -/
theorem occurrences_append_of_notMem (hb : d ∉ b) (a : List Char) :
    occurrences (q ++ [d]) (a ++ b) = occurrences (q ++ [d]) a := by
  have hborder : ∀ u r, u <:+ a → u ≠ [] → r <+: b → r ≠ [] → q ++ [d] ≠ u ++ r := by
    intro u r _ _ hr hne heq
    obtain ⟨s, rfl, -⟩ := exists_of_concat_eq_append heq hne
    exact hb (hr.subset (List.mem_append_right s (List.mem_singleton_self d)))
  rw [occurrences_append (List.concat_ne_nil d q) hborder,
    occurrences_of_notMem (List.mem_append_right q (List.mem_singleton_self d)) hb, Nat.add_zero]

/-- Where a line ends, a pattern that ends like a line ends or does not. -/
theorem concat_prefix_line_iff (hq : d ∉ q) :
    q ++ [d] <+: a ++ d :: b ↔ q ++ [d] <+: a ∨ q = a := by
  rw [prefix_append_iff]
  refine or_congr_right ⟨?_, ?_⟩
  · rintro ⟨r, hne, hr, heq⟩
    obtain ⟨s, rfl, rfl⟩ := exists_of_concat_eq_append heq hne
    cases s with
    | nil => exact List.append_nil a
    | cons e s =>
      rw [(List.cons_prefix_cons.1 hr).1] at hq
      exact absurd (List.mem_append_right a List.mem_cons_self) hq
  · rintro rfl
    exact ⟨[d], List.cons_ne_nil d [], ⟨b, rfl⟩, rfl⟩

/-- **A pattern that ends like a line occurs at the end of a line or in what stands around it.** -/
theorem occurrences_line (hq : d ∉ q) (a b : List Char) :
    occurrences (q ++ [d]) (a ++ d :: b) =
      occurrences (q ++ [d]) a + (if q <:+ a then 1 else 0) + occurrences (q ++ [d]) b := by
  induction a with
  | nil =>
    have hstart : q ++ [d] <+: d :: b ↔ q <:+ [] := by
      have := concat_prefix_line_iff hq (a := []) (b := b)
      simpa using this
    rw [List.nil_append, occurrences_cons, occurrences_nil (List.concat_ne_nil d q),
      if_congr hstart rfl rfl]
    omega
  | cons c a ih =>
    have hstart := concat_prefix_line_iff hq (a := c :: a) (b := b)
    rw [List.cons_append] at hstart ⊢
    rw [occurrences_cons, occurrences_cons, ih, if_congr hstart rfl rfl,
      if_congr List.suffix_cons_iff rfl rfl]
    by_cases heq : q = c :: a
    · have hlong : ¬ q ++ [d] <+: c :: a := by
        intro h
        have hlength := h.length_le
        rw [heq, List.length_append, List.length_singleton] at hlength
        omega
      have hshort : ¬ q <:+ a := by
        intro h
        have hlength := h.length_le
        rw [heq, List.length_cons] at hlength
        omega
      rw [if_pos (Or.inr heq), if_neg hlong, if_pos (Or.inl heq), if_neg hshort]
      omega
    · rw [if_congr (or_iff_left heq) rfl rfl, if_congr (or_iff_right heq) rfl rfl]
      omega

/-- Lines have their occurrences each on its own. -/
theorem occurrences_line_append (hq : d ∉ q) (a b : List Char) :
    occurrences (q ++ [d]) (a ++ [d] ++ b) =
      occurrences (q ++ [d]) (a ++ [d]) + occurrences (q ++ [d]) b := by
  rw [List.append_assoc, List.singleton_append, occurrences_line hq, occurrences_line hq,
    occurrences_nil (List.concat_ne_nil d q), Nat.add_zero]

end Matchday.Text
