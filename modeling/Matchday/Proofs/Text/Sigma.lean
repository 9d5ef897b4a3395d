import Matchday.Proofs.Text.Lowered
import Mathlib.Data.List.Induction

/-!
# Sigmas at the ends of words

Lowercasing looks at what stands around a character in one case only: a capital sigma with a letter
before it and none behind it becomes `ς`, elsewhere it becomes `σ`.  Characters that a word may hold
are passed over on both sides.  So the lowercase form of a text is that of its characters one by one
exactly when no capital sigma ends a word.  A letter of ASCII ends the search on both sides.

## Main definitions

* `Text.HasFinalSigma`: a capital sigma ends a word somewhere in a text.

## Main results

* `Text.foldl_letterBefore`: whether a letter comes before a place, read from the place backwards.
* `Text.lowerChars_eq_flatMap_iff`: when a text becomes lowercase one character at a time.
* `Text.foldCase_eq_foldCase_lowercase_iff`: when a text and its lowercase form agree character by
  character.
-/

namespace Matchday.Text

variable {before : Bool} {c : Char} {cs : List Char}

/-! ### Letters of ASCII -/

theorem isCaseIgnorable_eq_false_of_isAlpha : ∀ n < 128,
    (Char.ofNat n).isAlpha → isCaseIgnorable (Char.ofNat n) = false := by
  decide +kernel

theorem isAlpha_of_isUpper (h : c.isUpper) : c.isAlpha :=
  Bool.or_eq_true_iff.2 (.inl h)

theorem isAlpha_of_isLower (h : c.isLower) : c.isAlpha :=
  Bool.or_eq_true_iff.2 (.inr h)

theorem toNat_lt_of_isAlpha (h : c.isAlpha) : c.toNat < 128 := by
  rcases Bool.or_eq_true_iff.1 h with hupper | hlower
  · have hlast : c.toNat ≤ 90 := UInt32.le_iff_toNat_le.1 (of_decide_eq_true hupper).2
    omega
  · have hbounds := Bool.and_eq_true_iff.1 hlower
    have hlast : c.toNat ≤ 122 := UInt32.le_iff_toNat_le.1 (of_decide_eq_true hbounds.2)
    omega

/-- A letter of ASCII is a letter in the search for letters, which ends there. -/
theorem isCaseIgnorable_of_isAlpha (h : c.isAlpha) : isCaseIgnorable c = false ∧ isCased c := by
  have hascii := toNat_lt_of_isAlpha h
  refine ⟨?_, by rw [isCased, if_pos hascii, h]⟩
  rw [← c.ofNat_toNat] at h ⊢
  exact isCaseIgnorable_eq_false_of_isAlpha c.toNat hascii h

theorem letterBefore_of_isAlpha (h : c.isAlpha) : letterBefore before c = true := by
  obtain ⟨hignorable, hcased⟩ := isCaseIgnorable_of_isAlpha h
  rw [letterBefore, hignorable, if_neg Bool.false_ne_true, hcased]

/-! ### Words -/

/-- A capital sigma ends a word: there is a letter before it and none behind it, past characters
that a word may hold. -/
def HasFinalSigma (cs : List Char) : Prop :=
  ∃ front back, cs = front ++ 'Σ' :: back ∧ letterFollows front.reverse ∧ ¬ letterFollows back

/-- An element of a list is the first one or comes later. -/
theorem forall_cons_eq_append_cons_iff {α : Type} {a b : α} {l : List α}
    {p : List α → List α → Prop} :
    (∀ front back, a :: l = front ++ b :: back → p front back) ↔
      (a = b → p [] l) ∧ ∀ front back, l = front ++ b :: back → p (a :: front) back := by
  constructor
  · refine fun h => ⟨?_, ?_⟩
    · rintro rfl
      exact h [] l rfl
    · rintro front back rfl
      exact h (a :: front) back rfl
  · rintro ⟨hfirst, hlater⟩ front back heq
    rcases List.cons_eq_append_iff.1 heq with ⟨rfl, hcons⟩ | ⟨front, rfl, htail⟩
    · obtain ⟨rfl, rfl⟩ := List.cons.inj hcons
      exact hfirst rfl
    · exact hlater front back htail

/-- Whether a letter comes before a place, read from the place backwards. -/
theorem foldl_letterBefore (cs : List Char) :
    cs.foldl letterBefore false = letterFollows cs.reverse := by
  induction cs using List.reverseRecOn with
  | nil => rfl
  | append_singleton cs c ih =>
    rw [List.foldl_concat, List.reverse_concat, letterFollows, letterBefore, ih]

/-- The same as `lowerChars_eq_flatMap_iff`, where a letter may stand before the text. -/
theorem lowerChars_eq_flatMap_iff_forall :
    lowerChars before cs = cs.flatMap lowerChar ↔
      ∀ front back, cs = front ++ 'Σ' :: back → front.foldl letterBefore before = true →
        letterFollows back := by
  induction cs generalizing before with
  | nil => simp [lowerChars_nil]
  | cons c cs ih =>
    -- The sigma is the first character of the text or comes later.
    rw [forall_cons_eq_append_cons_iff, lowerChars_cons, List.flatMap_cons]
    simp only [List.foldl_cons, List.foldl_nil, ← ih]
    by_cases hc : c = 'Σ'
    · have hlower : lowerChar 'Σ' = ['σ'] := by decide +kernel
      rw [if_pos hc, hc, hlower]
      cases before <;> cases letterFollows cs <;> simp
    · rw [if_neg hc, List.append_cancel_left_eq]
      simp [hc]

/-- **A text becomes lowercase one character at a time** exactly when no capital sigma ends a
word. -/
theorem lowerChars_eq_flatMap_iff :
    lowerChars false cs = cs.flatMap lowerChar ↔ ¬ HasFinalSigma cs := by
  rw [lowerChars_eq_flatMap_iff_forall, HasFinalSigma]
  simp only [foldl_letterBefore, not_exists, not_and, not_not]

instance (cs : List Char) : Decidable (HasFinalSigma cs) :=
  decidable_of_iff (lowerChars false cs ≠ cs.flatMap lowerChar)
    ((not_congr lowerChars_eq_flatMap_iff).trans not_not)

/-- The characters of a lowercase form have no lowercase forms of their own. -/
theorem foldCase_lowercase (s : String) : foldCase (lowercase s) = (lowercase s).toList := by
  rw [foldCase, lowercase, String.toList_ofList]
  refine (List.flatMap_congr fun c hc => (isLowered_of_mem_lowerChars hc).2).trans ?_
  rw [← List.map_eq_flatMap, List.map_id']

/-- **A text and its lowercase form agree character by character** exactly when no capital sigma
ends a word of the text. -/
theorem foldCase_eq_foldCase_lowercase_iff {s : String} :
    foldCase s = foldCase (lowercase s) ↔ ¬ HasFinalSigma s.toList := by
  rw [foldCase_lowercase, lowercase, String.toList_ofList, eq_comm, foldCase,
    lowerChars_eq_flatMap_iff]

end Matchday.Text
