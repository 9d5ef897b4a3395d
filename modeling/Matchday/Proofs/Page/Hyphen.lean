import Matchday.Proofs.Page.Slug
import Matchday.Proofs.Text.Sigma

/-!
# Hyphens in slugs

A hyphen is put between two letters of ASCII, and each of them ends the search for letters around a
sigma.  So the hyphen has no influence on how the characters around it become lowercase: a slug is
the lowercase form of the name with hyphens added, one for each capital letter that directly follows
a lowercase letter.

## Main definitions

* `Text.innerCapitals`: how many capital letters directly follow a lowercase letter.

## Main results

* `lowerChars_hyphenate_filter`: but for hyphens, a text becomes lowercase as it would without the
  added hyphens.
* `count_hyphenate`: how many hyphens are added.
* `slug_adds_hyphens`: a slug is the lowercase form of the name with these hyphens added.
-/

namespace Matchday

namespace Text

/-- The number of places where a lowercase letter of ASCII is directly followed by a capital letter
of ASCII. -/
def innerCapitals (cs : List Char) : Nat :=
  (cs.zip cs.tail).countP fun (a, b) => a.isLower && b.isUpper

theorem innerCapitals_cons_cons (a b : Char) (cs : List Char) :
    innerCapitals (a :: b :: cs) =
      innerCapitals (b :: cs) + if a.isLower && b.isUpper then 1 else 0 := by
  rw [innerCapitals, List.tail_cons, List.zip_cons_cons, List.countP_cons]
  rfl

end Text

open Text

variable {afterLower before : Bool} {cs : List Char}

/-! ### Letters around a hyphen -/

/-- The search for a letter behind a place ends before an added hyphen. -/
theorem letterFollows_hyphenate (cs : List Char) :
    letterFollows (hyphenate false cs) = letterFollows cs := by
  induction cs with
  | nil => rfl
  | cons c cs ih =>
    rw [hyphenate, Bool.false_and, if_neg Bool.false_ne_true, letterFollows, letterFollows]
    split
    next hignorable =>
      have hlower : c.isLower = false := by
        refine Bool.eq_false_iff.2 fun h => ?_
        rw [(isCaseIgnorable_of_isAlpha (isAlpha_of_isLower h)).1] at hignorable
        contradiction
      rw [hlower, ih]
    next => rfl

/-- The search for a letter before a place ends behind an added hyphen: a capital letter comes out
the same with a hyphen in front of it. -/
theorem lowerChars_hyphen_cons {c : Char} (hc : c.isUpper) (cs : List Char) :
    lowerChars before ('-' :: c :: cs) = '-' :: lowerChars before (c :: cs) := by
  have halpha : c.isAlpha := isAlpha_of_isUpper hc
  have hhyphen : lowerChar '-' = ['-'] := by decide +kernel
  have hsigma : c ≠ 'Σ' := by
    rintro rfl
    exact absurd hc (by decide)
  rw [lowerChars_cons, if_neg (by decide), hhyphen, lowerChars_cons, lowerChars_cons,
    if_neg hsigma, if_neg hsigma, letterBefore_of_isAlpha halpha, letterBefore_of_isAlpha halpha,
    List.singleton_append]

/-! ### Hyphens that are added -/

/-- **But for hyphens, a text becomes lowercase as it would without the added hyphens.** -/
theorem lowerChars_hyphenate_filter :
    (lowerChars before (hyphenate afterLower cs)).filter (· != '-') =
      (lowerChars before cs).filter (· != '-') := by
  induction cs generalizing afterLower before with
  | nil => rfl
  | cons c cs ih =>
    -- Without a hyphen in front of it, the first character has the same letters around it.
    have hfirst : (lowerChars before (c :: hyphenate c.isLower cs)).filter (· != '-') =
        (lowerChars before (c :: cs)).filter (· != '-') := by
      rw [lowerChars_cons, lowerChars_cons, List.filter_append, List.filter_append, ih]
      split
      next hsigma =>
        have hlower : 'Σ'.isLower = false := by decide
        rw [hsigma, hlower, letterFollows_hyphenate]
      next => rfl
    rw [hyphenate]
    split
    next hjoint =>
      rw [lowerChars_hyphen_cons (Bool.and_eq_true_iff.1 hjoint).2,
        List.filter_cons_of_neg (by decide), hfirst]
    next => exact hfirst

/-- The added hyphens of a text behind a character. -/
theorem count_hyphenate_isLower (c : Char) (cs : List Char) :
    (hyphenate c.isLower cs).count '-' = cs.count '-' + innerCapitals (c :: cs) := by
  induction cs generalizing c with
  | nil => rfl
  | cons d cs ih =>
    rw [innerCapitals_cons_cons, hyphenate]
    split
    next =>
      rw [List.count_cons_self, List.count_cons, List.count_cons, ih]
      omega
    next =>
      rw [List.count_cons, List.count_cons, ih]
      omega

/-- **One hyphen is added for each capital letter that directly follows a lowercase letter.** -/
theorem count_hyphenate (cs : List Char) :
    (hyphenate false cs).count '-' = cs.count '-' + innerCapitals cs := by
  cases cs with
  | nil => rfl
  | cons c cs =>
    rw [hyphenate, Bool.false_and, if_neg Bool.false_ne_true, List.count_cons, List.count_cons,
      count_hyphenate_isLower]
    omega

/-- **A slug is the lowercase form of the name with hyphens added**: without hyphens the two are the
same, and the name gets a hyphen for each capital letter of ASCII that directly follows a lowercase
letter of ASCII. -/
theorem slug_adds_hyphens (name : String) :
    (slug name).toList.filter (· != '-') = (lowercase name).toList.filter (· != '-') ∧
      (slug name).toList.count '-' = name.toList.count '-' + innerCapitals name.toList := by
  rw [slug, lowercase, String.toList_ofList, String.toList_ofList]
  refine ⟨lowerChars_hyphenate_filter, ?_⟩
  rw [count_lowerChars (by decide), count_hyphenate]

/-- The sigma in front of the hyphen stands inside a word with it and without it. -/
example : slug "ΟΔΟΣaBundesliga" = "οδοσa-bundesliga" := by decide +kernel

end Matchday
