import Matchday.Text.Blank
import Mathlib.Data.List.DropRight

/-!
# Trimming

## Main results

* `Text.trimWhile_cons`, `Text.trimWhile_concat`: a character to trim at either end goes away.
* `Text.trimWhile_eq_self`: a text that neither begins nor ends in one stays as it is.
-/

namespace Matchday.Text

variable {p : Char → Bool} {cs : List Char} {c : Char}

theorem dropEndWhile_eq_rdropWhile (p : Char → Bool) (cs : List Char) :
    dropEndWhile p cs = cs.rdropWhile p := rfl

theorem trimWhile_cons (h : p c) : trimWhile p (c :: cs) = trimWhile p cs := by
  rw [trimWhile, List.dropWhile_cons_of_pos h, trimWhile]

theorem trimWhile_concat (h : p c) : trimWhile p (cs ++ [c]) = trimWhile p cs := by
  rw [trimWhile, trimWhile, List.dropWhile_append, dropEndWhile_eq_rdropWhile]
  split
  next hnil =>
    rw [List.isEmpty_iff.1 hnil, List.dropWhile_cons_of_pos h]
    rfl
  next => exact List.rdropWhile_concat_pos p _ c h

theorem trimWhile_eq_self (hhead : ∀ c ∈ cs.head?, ¬ p c) (hlast : ∀ c ∈ cs.getLast?, ¬ p c) :
    trimWhile p cs = cs := by
  have hdrop : cs.dropWhile p = cs := by
    cases cs with
    | nil => rfl
    | cons c cs => exact List.dropWhile_cons_of_neg (hhead c rfl)
  rw [trimWhile, hdrop, dropEndWhile_eq_rdropWhile, List.rdropWhile_eq_self_iff]
  exact fun hne => hlast _ (List.getLast?_eq_some_getLast hne)

/-- A text without any character to trim stays as it is. -/
theorem trimWhile_eq_self_of_forall (h : ∀ c ∈ cs, ¬ p c) : trimWhile p cs = cs :=
  trimWhile_eq_self (fun c hc => h c (List.mem_of_head? hc))
    fun c hc => h c (List.mem_of_getLast? hc)

end Matchday.Text
