import Matchday.Proofs.Text.Letter

/-!
# Lowercase texts

What characters become under lowercasing is lowercase itself: the partners in the table of letter
case have no partners of their own, and neither form of a small sigma is a capital one.  So every
lowercase form is a lowercase text, and a lowercase text is its own lowercase form.

## Main definitions

* `Text.IsLowered`: a character that lowercasing leaves as it is, wherever it stands.

## Main results

* `Text.isLowered_of_mem_lowerChars`: lowercasing gives lowercase characters only.
* `Text.lowerChars_of_isLowered`: a lowercase text is its own lowercase form.
* `Text.IsLowered.isUpper_eq`: no capital letter of ASCII is lowercase.
-/

namespace Matchday

/-! ### Runs without a common code point -/

namespace CodeRun

variable {r r' : CodeRun} {c d : Char}

/-- The run at some distance. -/
def moved (r : CodeRun) (shift : Int) : CodeRun :=
  { r with first := (r.first + shift).toNat }

/-- The last code of a run. -/
def last (r : CodeRun) : Nat :=
  r.first + (r.size - 1) * r.stride

/-- Whether two runs are seen to have no code point in common: one ends before the other begins, or
one takes every second code point and the other only such as lie between. -/
def isApart (r r' : CodeRun) : Bool :=
  Nat.blt r.last r'.first || Nat.blt r'.last r.first ||
    (r.size == 1 || r.stride == 2) && r'.stride == 2 && r.first % 2 != r'.first % 2

theorem exists_of_contains (h : r.contains c) :
    ∃ i < r.size, c.toNat = r.first + i * r.stride := by
  simp only [contains, Bool.and_eq_true, decide_eq_true_eq, beq_iff_eq] at h
  obtain ⟨⟨hfirst, hlast⟩, hstride⟩ := h
  obtain ⟨i, hi⟩ := Nat.dvd_of_mod_eq_zero hstride
  rw [Nat.mul_comm] at hi
  exact ⟨i, Nat.lt_of_mul_lt_mul_right (a := r.stride) (by omega), by omega⟩

theorem le_last_of_contains (h : r.contains c) : c.toNat ≤ r.last := by
  obtain ⟨i, hi, hc⟩ := exists_of_contains h
  have hsteps : i * r.stride ≤ (r.size - 1) * r.stride := Nat.mul_le_mul_right _ (by omega)
  rw [last]
  omega

theorem first_le_of_contains (h : r.contains c) : r.first ≤ c.toNat := by
  obtain ⟨i, -, hc⟩ := exists_of_contains h
  omega

/-- All code points of such a run are even, or all are odd. -/
theorem mod_two_of_contains (h : r.contains c) (hr : r.size = 1 ∨ r.stride = 2) :
    c.toNat % 2 = r.first % 2 := by
  obtain ⟨i, hi, hc⟩ := exists_of_contains h
  rcases hr with hsize | hstride
  · obtain rfl : i = 0 := by omega
    omega
  · rw [hstride] at hc
    omega

theorem contains_eq_false_of_isApart (hapart : r.isApart r') (h : r.contains c) :
    r'.contains c = false := by
  rw [Bool.eq_false_iff]
  intro h'
  have hlast := le_last_of_contains h
  have hlast' := le_last_of_contains h'
  have hfirst := first_le_of_contains h
  have hfirst' := first_le_of_contains h'
  simp only [isApart, Bool.or_eq_true, Bool.and_eq_true, Nat.blt_eq, beq_iff_eq,
    bne_iff_ne] at hapart
  rcases hapart with (hbefore | hbehind) | ⟨⟨hr, hr'⟩, hparity⟩
  · omega
  · omega
  · have hmod := mod_two_of_contains h hr
    have hmod' := mod_two_of_contains h' (.inr hr')
    omega

theorem contains_moved {shift : Int} (hnonneg : 0 ≤ r.first + shift) (h : r.contains c)
    (hd : (d.toNat : Int) = c.toNat + shift) : (r.moved shift).contains d := by
  simp only [contains, Bool.and_eq_true, decide_eq_true_eq, beq_iff_eq] at h
  obtain ⟨⟨hfirst, hlast⟩, hstride⟩ := h
  have hmoved : (r.moved shift).first = (r.first + shift).toNat := rfl
  have hsame : d.toNat - (r.moved shift).first = c.toNat - r.first := by omega
  simp only [contains, Bool.and_eq_true, decide_eq_true_eq, beq_iff_eq, hsame]
  exact ⟨⟨by omega, show _ < _ + r.size * r.stride by omega⟩, hstride⟩

end CodeRun

namespace Text

/-- A character that lowercasing leaves as it is, wherever it stands. -/
def IsLowered (c : Char) : Prop :=
  c ≠ 'Σ' ∧ lowerChar c = [c]

instance (c : Char) : Decidable (IsLowered c) :=
  inferInstanceAs (Decidable (_ ∧ _))

theorem isUpper_eq_false_of_isLowered : ∀ n < 128,
    IsLowered (Char.ofNat n) → (Char.ofNat n).isUpper = false := by
  decide +kernel

/-- **No capital letter of ASCII is lowercase.** -/
theorem IsLowered.isUpper_eq {c : Char} (h : IsLowered c) : c.isUpper = false := by
  by_cases hc : c.toNat < 128
  · rw [← c.ofNat_toNat] at h ⊢
    exact isUpper_eq_false_of_isLowered c.toNat hc h
  · refine decide_eq_false fun hupper => ?_
    have hlast : c.toNat ≤ 90 := UInt32.le_iff_toNat_le.1 hupper.2
    omega

/-! ### What characters become -/

/-- The dotted capital I, as a run. -/
def dottedI : CodeRun :=
  ⟨0x130, 1, 2⟩

theorem isLowered_toLower : ∀ n < 128, IsLowered (Char.ofNat n).toLower := by
  decide +kernel

theorem toLower_eq_self {c : Char} (h : 97 ≤ c.toNat) : c.toLower = c := by
  refine dif_neg fun hupper => ?_
  have hlast : c.toNat ≤ 90 := UInt32.le_iff_toNat_le.1 hupper.2
  omega

theorem ne_dottedI_of_contains_eq_false {c : Char} (h : dottedI.contains c = false) : c ≠ 'İ' := by
  rintro rfl
  exact absurd h (by decide)

theorem contains_sigma : ∃ e ∈ lowercaseShifts, e.1.contains 'Σ' :=
  ⟨(⟨0x3A3, 9, 1⟩, 32), by decide, by decide⟩

/-- A character outside the table is lowercase, the capital letters of ASCII and the dotted capital
I apart. -/
theorem isLowered_of_forall {c : Char} (hascii : c.toNat < 128 → c.toLower = c) (hdotted : c ≠ 'İ')
    (hshifts : ∀ e ∈ lowercaseShifts, e.1.contains c = false) : IsLowered c := by
  refine ⟨?_, ?_⟩
  · rintro rfl
    obtain ⟨e, he, hcontains⟩ := contains_sigma
    rw [hshifts e he] at hcontains
    contradiction
  · have hfind : lowercaseShifts.find? (·.1.contains c) = none :=
      List.find?_eq_none.2 fun e he => Bool.eq_false_iff.1 (hshifts e he)
    by_cases hc : c.toNat < 128
    · rw [lowerChar, if_pos hc, hascii hc]
    · rw [lowerChar, if_neg hc, if_neg hdotted, hfind]

/-- The partners of the letters in the table. -/
def partners : List CodeRun :=
  lowercaseShifts.map fun e => e.1.moved e.2

/-- The partners in the table have no partners of their own. -/
theorem all_partners_isApart : (partners.all fun r =>
    r.isApart dottedI && lowercaseShifts.all fun e => r.isApart e.1) = true := by
  decide +kernel

/-- A partner in the table is lowercase. -/
theorem isLowered_of_mem_partners {r : CodeRun} (hr : r ∈ partners) {d : Char}
    (hd : r.contains d) (hascii : d.toNat < 128 → d.toLower = d) : IsLowered d := by
  have hapart := List.all_eq_true.1 all_partners_isApart r hr
  rw [Bool.and_eq_true, List.all_eq_true] at hapart
  exact isLowered_of_forall hascii
    (ne_dottedI_of_contains_eq_false (CodeRun.contains_eq_false_of_isApart hapart.1 hd))
    fun e he => CodeRun.contains_eq_false_of_isApart (hapart.2 e he) hd

/-- **What a character becomes is lowercase.** -/
theorem isLowered_of_mem_lowerChar {c d : Char} (hd : d ∈ lowerChar c) : IsLowered d := by
  by_cases hc : c.toNat < 128
  · rw [lowerChar, if_pos hc, List.mem_singleton] at hd
    rw [hd, ← c.ofNat_toNat]
    exact isLowered_toLower c.toNat hc
  have hlow := le_toNat_of_mem_lowerChar (by omega) hd
  have hascii : d.toNat < 128 → d.toLower = d := fun _ => toLower_eq_self hlow
  rw [lowerChar, if_neg hc] at hd
  split at hd
  · simp only [List.mem_cons, List.not_mem_nil, or_false] at hd
    rcases hd with rfl | rfl <;> decide +kernel
  next hdotted =>
    split at hd
    next run shift hfind =>
      have hmem := List.mem_of_find?_eq_some hfind
      have hrun := List.find?_some (p := fun e : CodeRun × Int => e.1.contains c) hfind
      have hpartner := toNat_partner hmem hrun
      obtain ⟨hbound, -⟩ := lowercaseShifts_bounds _ hmem
      rw [← List.mem_singleton.1 hd] at hpartner
      have hnonneg : 0 ≤ run.first + shift := Int.le_trans (by decide) hbound
      have hmoved : (run.moved shift).contains d := CodeRun.contains_moved hnonneg hrun hpartner
      exact isLowered_of_mem_partners (List.mem_map_of_mem hmem) hmoved hascii
    next hfind =>
      obtain rfl := List.mem_singleton.1 hd
      exact isLowered_of_forall hascii hdotted fun e he =>
        Bool.eq_false_iff.2 (List.find?_eq_none.1 hfind e he)

/-! ### Texts -/

/-- **Lowercasing gives lowercase characters only**, also for a capital sigma at the end of a
word. -/
theorem isLowered_of_mem_lowerChars {before : Bool} {cs : List Char} {d : Char}
    (hd : d ∈ lowerChars before cs) : IsLowered d := by
  induction cs generalizing before with
  | nil => exact absurd hd List.not_mem_nil
  | cons c cs ih =>
    rw [lowerChars_cons, List.mem_append] at hd
    rcases hd with hd | hd
    · split at hd
      · rw [List.mem_singleton] at hd
        split at hd <;> subst hd <;> decide +kernel
      · exact isLowered_of_mem_lowerChar hd
    · exact ih hd

/-- **A lowercase text is its own lowercase form.** -/
theorem lowerChars_of_isLowered {before : Bool} {cs : List Char} (h : ∀ c ∈ cs, IsLowered c) :
    lowerChars before cs = cs := by
  induction cs generalizing before with
  | nil => rfl
  | cons c cs ih =>
    rw [List.forall_mem_cons] at h
    rw [lowerChars_cons, if_neg h.1.1, h.1.2, ih h.2, List.singleton_append]

end Text

end Matchday
