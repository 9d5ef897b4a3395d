import Matchday.Text.Letter
import Mathlib.Data.List.Basic

/-!
# Characters under lowercasing

A character outside ASCII never becomes one below the lowercase letters of ASCII.  So the signs and
digits of a text come through lowercasing as they are, and none are added.

## Main results

* `Text.le_toNat_of_mem_lowerChar`: what a character outside ASCII becomes.
* `Text.mem_lowerChars_iff`: the signs in the lowercase form of a text are those of the text.
* `Text.count_lowerChars`: lowercasing keeps the number of each sign.
* `Text.lowerChars_append_slash`: the parts of a text on both sides of a slash become lowercase on
  their own.
-/

namespace Matchday.Text

/-- The distances of the table lead to code points of characters, none of them below `a`. -/
theorem lowercaseShifts_bounds : ∀ e ∈ lowercaseShifts,
    97 ≤ e.1.first + e.2 ∧
      ((e.1.first + e.1.size * e.1.stride : Nat) + e.2 ≤ 0xD800 ∨
        0xE000 ≤ e.1.first + e.2 ∧
          (e.1.first + e.1.size * e.1.stride : Nat) + e.2 ≤ 0x110000) := by
  decide +kernel

/-- The partner of a letter is as far away as the table says. -/
theorem toNat_partner {e : CodeRun × Int} (he : e ∈ lowercaseShifts) {c : Char}
    (hc : e.1.contains c) : ((Char.ofNat (c.toNat + e.2).toNat).toNat : Int) = c.toNat + e.2 := by
  obtain ⟨hlow, hhigh⟩ := lowercaseShifts_bounds e he
  simp only [CodeRun.contains, Bool.and_eq_true, decide_eq_true_eq] at hc
  have hvalid : (c.toNat + e.2).toNat.isValidChar := by
    rw [Nat.isValidChar]
    omega
  rw [Char.ofNat, dif_pos hvalid]
  change ((c.toNat + e.2).toNat : Int) = _
  omega

/-- A character outside ASCII becomes characters from `a` on. -/
theorem le_toNat_of_mem_lowerChar {c d : Char} (hc : 128 ≤ c.toNat) (hd : d ∈ lowerChar c) :
    97 ≤ d.toNat := by
  rw [lowerChar, if_neg (by omega)] at hd
  split at hd
  · simp only [List.mem_cons, List.not_mem_nil, or_false] at hd
    rcases hd with rfl | rfl <;> decide
  · split at hd
    next run shift hfind =>
      have hmem := List.mem_of_find?_eq_some hfind
      have hrun := List.find?_some (p := fun e : CodeRun × Int => e.1.contains c) hfind
      have hpartner := toNat_partner hmem hrun
      obtain ⟨hlow, -⟩ := lowercaseShifts_bounds _ hmem
      simp only [CodeRun.contains, Bool.and_eq_true, decide_eq_true_eq] at hrun hlow
      rw [← List.mem_singleton.1 hd] at hpartner
      omega
    next =>
      rw [List.mem_singleton.1 hd]
      omega

/-- The lowercase form of an ASCII character contains no sign but the character itself. -/
theorem toLower_eq_iff {c d : Char} (hd : d.toNat < 65) : c.toLower = d ↔ c = d := by
  by_cases h : c.val ≥ 'A'.val ∧ c.val ≤ 'Z'.val
  · have hlower : c.toLower.val = c.val + 32 := congrArg Char.val (dif_pos h)
    rw [ge_iff_le, UInt32.le_iff_toNat_le, UInt32.le_iff_toNat_le] at h
    obtain ⟨hlow, hhigh⟩ : 65 ≤ c.toNat ∧ c.toNat ≤ 90 := h
    refine iff_of_false ?_ ?_
    · rintro rfl
      rw [Char.toNat, hlower, UInt32.toNat_add] at hd
      change (c.toNat + 32) % 2 ^ 32 < 65 at hd
      omega
    · rintro rfl
      omega
  · have hlower : c.toLower = c := dif_neg h
    rw [hlower]

/-- The lowercase form of a character contains no sign but the character itself. -/
theorem mem_lowerChar_iff {c d : Char} (hd : d.toNat < 65) : d ∈ lowerChar c ↔ d = c := by
  by_cases hc : c.toNat < 128
  · rw [lowerChar, if_pos hc, List.mem_singleton, eq_comm, toLower_eq_iff hd, eq_comm]
  · refine iff_of_false (fun h => ?_) ?_
    · have := le_toNat_of_mem_lowerChar (by omega) h
      omega
    · rintro rfl
      omega

theorem lowerChar_ne_nil (c : Char) : lowerChar c ≠ [] := by
  rw [lowerChar]
  split
  · simp
  · split
    · simp
    · split <;> simp

/-- Every character becomes something, in which the only sign is the character itself. -/
theorem exists_lowerChars_cons (before : Bool) (c : Char) (cs : List Char) :
    ∃ image, image ≠ [] ∧ (∀ d : Char, d.toNat < 65 → (d ∈ image ↔ d = c)) ∧
      lowerChars before (c :: cs) = image ++ lowerChars (letterBefore before c) cs := by
  refine ⟨_, ?_, fun d hd => ?_, lowerChars_cons before c cs⟩
  · split
    · exact List.cons_ne_nil _ _
    · exact lowerChar_ne_nil c
  · split
    next hsigma =>
      -- Neither form of a small sigma is a sign.
      rw [List.mem_singleton, hsigma]
      refine iff_of_false ?_ ?_
      · split <;> rintro rfl <;> exact absurd hd (by decide)
      · rintro rfl
        exact absurd hd (by decide)
    next => exact mem_lowerChar_iff hd

theorem count_singleton_of_le {c d : Char} (hd : d.toNat < 65) (hc : 65 ≤ c.toNat) :
    [c].count d = 0 := by
  refine List.count_eq_zero.2 fun hmem => ?_
  rw [List.mem_singleton.1 hmem] at hd
  omega

/-- A sign becomes itself, and nothing else becomes a sign. -/
theorem count_lowerChar {c d : Char} (hd : d.toNat < 65) : (lowerChar c).count d = [c].count d := by
  by_cases hc : c = d
  · rw [hc, lowerChar, if_pos (by omega), (toLower_eq_iff hd).2 rfl]
  · rw [List.count_eq_zero.2 (mt (mem_lowerChar_iff hd).1 (Ne.symm hc)),
      List.count_eq_zero.2 (by simpa using Ne.symm hc)]

/-- **Lowercasing keeps the number of each sign.** -/
theorem count_lowerChars {before : Bool} {cs : List Char} {d : Char} (hd : d.toNat < 65) :
    (lowerChars before cs).count d = cs.count d := by
  induction cs generalizing before with
  | nil => rfl
  | cons c cs ih =>
    have himage : (if c = 'Σ' then [if before && !letterFollows cs then 'ς' else 'σ']
        else lowerChar c).count d = [c].count d := by
      split
      next hsigma =>
        -- Neither the capital sigma nor a small one is a sign.
        rw [hsigma, count_singleton_of_le hd (c := 'Σ') (by decide)]
        split
        · exact count_singleton_of_le hd (by decide)
        · exact count_singleton_of_le hd (by decide)
      next => exact count_lowerChar hd
    rw [lowerChars_cons, List.count_append, himage, ih, ← List.count_append, List.singleton_append]

/-- **The signs in the lowercase form of a text are those of the text.** -/
theorem mem_lowerChars_iff {before : Bool} {cs : List Char} {d : Char} (hd : d.toNat < 65) :
    d ∈ lowerChars before cs ↔ d ∈ cs := by
  rw [← List.count_pos_iff, count_lowerChars hd, List.count_pos_iff]

theorem lowerChars_eq_nil_iff {before : Bool} {cs : List Char} :
    lowerChars before cs = [] ↔ cs = [] := by
  cases cs with
  | nil => simp [lowerChars_nil]
  | cons c cs =>
    obtain ⟨image, hne, -, hlower⟩ := exists_lowerChars_cons before c cs
    simp [hlower, hne]

/-- A slash is neither a letter nor something that a word may hold. -/
theorem isCaseIgnorable_slash : isCaseIgnorable '/' = false := by decide +kernel

theorem isCased_slash : isCased '/' = false := by decide +kernel

theorem letterFollows_append_slash (cs ds : List Char) :
    letterFollows (cs ++ '/' :: ds) = letterFollows cs := by
  induction cs with
  | nil => simp [letterFollows, isCaseIgnorable_slash, isCased_slash]
  | cons c cs ih => rw [List.cons_append, letterFollows, letterFollows, ih]

/-- **A slash divides a text**: what is on one side has no influence on the other. -/
theorem lowerChars_append_slash (before : Bool) (cs ds : List Char) :
    lowerChars before (cs ++ '/' :: ds) = lowerChars before cs ++ '/' :: lowerChars false ds := by
  induction cs generalizing before with
  | nil =>
    have hsigma : '/' ≠ 'Σ' := by decide
    have hlower : lowerChar '/' = ['/'] := by decide
    rw [List.nil_append, lowerChars_cons, if_neg hsigma, hlower, letterBefore,
      isCaseIgnorable_slash, isCased_slash, if_neg Bool.false_ne_true, lowerChars_nil,
      List.nil_append, List.singleton_append]
  | cons c cs ih =>
    rw [List.cons_append, lowerChars_cons, lowerChars_cons, ih, letterFollows_append_slash,
      List.append_assoc]

/-- A text of signs is its own lowercase form. -/
theorem lowerChars_eq_self {before : Bool} {cs : List Char} (h : ∀ c ∈ cs, c.toNat < 65) :
    lowerChars before cs = cs := by
  induction cs generalizing before with
  | nil => rfl
  | cons c cs ih =>
    rw [List.forall_mem_cons] at h
    have hsigma : c ≠ 'Σ' := by
      rintro rfl
      exact absurd h.1 (by decide)
    have hlower : lowerChar c = [c] := by
      rw [lowerChar, if_pos (by omega), (toLower_eq_iff h.1).2 rfl]
    rw [lowerChars_cons, if_neg hsigma, hlower, ih h.2, List.singleton_append]

/-- A text that becomes nothing but one sign has nothing but this sign. -/
theorem forall_eq_of_lowerChars {before : Bool} {cs : List Char} {d : Char} (hd : d.toNat < 65)
    (h : ∀ c ∈ lowerChars before cs, c = d) : ∀ c ∈ cs, c = d := by
  induction cs generalizing before with
  | nil => exact fun _ hc => absurd hc List.not_mem_nil
  | cons c cs ih =>
    obtain ⟨image, hne, hsigns, hlower⟩ := exists_lowerChars_cons before c cs
    rw [hlower, List.forall_mem_append] at h
    obtain ⟨e, he⟩ := List.exists_mem_of_ne_nil image hne
    have hmem : d ∈ image := h.1 e he ▸ he
    rw [List.forall_mem_cons]
    exact ⟨((hsigns d hd).1 hmem).symm, ih h.2⟩

/-- The last character becomes something at the end. -/
theorem exists_lowerChars_concat (before : Bool) (cs : List Char) (c : Char) :
    ∃ outer image, image ≠ [] ∧ (∀ d : Char, d.toNat < 65 → (d ∈ image ↔ d = c)) ∧
      lowerChars before (cs ++ [c]) = outer ++ image := by
  induction cs generalizing before with
  | nil =>
    obtain ⟨image, hne, hsigns, hlower⟩ := exists_lowerChars_cons before c []
    exact ⟨[], image, hne, hsigns, by rw [List.nil_append, hlower, lowerChars_nil,
      List.append_nil, List.nil_append]⟩
  | cons b cs ih =>
    obtain ⟨first, -, -, hfirst⟩ := exists_lowerChars_cons before b (cs ++ [c])
    obtain ⟨outer, image, hne, hsigns, hlower⟩ := ih (letterBefore before b)
    refine ⟨first ++ outer, image, hne, hsigns, ?_⟩
    rw [List.cons_append, hfirst, hlower, List.append_assoc]

end Matchday.Text
