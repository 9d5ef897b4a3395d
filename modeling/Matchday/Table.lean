/-!
# Tables

A table holds one value for each of finitely many keys, in ascending order of the keys.

## Main definitions

* `Table`: the keys with their values.
* `Table.insert`, `Table.get?`, `Table.keys`, `Table.ofList`.

## Main results

* `Table.get?_insert`: what a table holds after a value is put into it.
* `Table.ext_get?`: two tables that hold the same values are equal.
-/

namespace Matchday

/-- Keys with their values, each key once. -/
structure Table (α : Type) where
  toList : List (String × α)
  ascending : toList.Pairwise fun a b => a.1 < b.1 := by simp
deriving Repr

namespace Table

variable {α : Type}

/-- The table without any key. -/
def empty : Table α where
  toList := []

instance : Inhabited (Table α) := ⟨empty⟩

instance [DecidableEq α] : DecidableEq (Table α) := fun s t =>
  if h : s.toList = t.toList then isTrue (by cases s; cases t; cases h; rfl)
  else isFalse fun e => h (e ▸ rfl)

/-- Puts a value at the place of its key; it replaces the value that the key had. -/
def place (key : String) (x : α) : List (String × α) → List (String × α)
  | [] => [(key, x)]
  | (k, y) :: rest =>
    if key < k then (key, x) :: (k, y) :: rest
    else if key = k then (key, x) :: rest
    else (k, y) :: place key x rest

theorem mem_place {key : String} {x : α} {l : List (String × α)} {e : String × α}
    (h : e ∈ place key x l) : e = (key, x) ∨ e ∈ l := by
  induction l with
  | nil => simpa [place] using h
  | cons p rest ih =>
    obtain ⟨k, y⟩ := p
    simp only [place] at h
    split at h
    · simpa using h
    · split at h
      · rcases List.mem_cons.1 h with h | h
        · exact Or.inl h
        · exact Or.inr (List.mem_cons_of_mem _ h)
      · rcases List.mem_cons.1 h with h | h
        · exact Or.inr (h ▸ List.mem_cons_self)
        · exact (ih h).imp_right (List.mem_cons_of_mem _)

theorem ascending_place (key : String) (x : α) {l : List (String × α)}
    (h : l.Pairwise fun a b => a.1 < b.1) :
    (place key x l).Pairwise fun a b => a.1 < b.1 := by
  induction l with
  | nil => simp [place]
  | cons p rest ih =>
    obtain ⟨k, y⟩ := p
    rw [List.pairwise_cons] at h
    simp only [place]
    split
    next hlt =>
      refine List.pairwise_cons.2 ⟨fun e he => ?_, List.pairwise_cons.2 h⟩
      rcases List.mem_cons.1 he with rfl | he
      · exact hlt
      · exact String.lt_trans hlt (h.1 e he)
    next hlt =>
      split
      next heq => exact List.pairwise_cons.2 ⟨fun e he => heq ▸ h.1 e he, h.2⟩
      next hne =>
        refine List.pairwise_cons.2 ⟨fun e he => ?_, ih h.2⟩
        rcases mem_place he with rfl | he
        · exact Std.lt_of_le_of_ne (String.not_lt.1 hlt) (Ne.symm hne)
        · exact h.1 e he

/-- The table with another value under a key. -/
def insert (t : Table α) (key : String) (x : α) : Table α where
  toList := place key x t.toList
  ascending := ascending_place key x t.ascending

/-- The first value behind a key in a list. -/
def find? (key : String) : List (String × α) → Option α
  | [] => none
  | (k, x) :: rest => if k = key then some x else find? key rest

/-- The value under a key. -/
def get? (t : Table α) (key : String) : Option α :=
  find? key t.toList

/-- The keys of a table, in ascending order. -/
def keys (t : Table α) : List String :=
  t.toList.map Prod.fst

/-- A table of pairs; of the pairs with one key the last counts. -/
def ofList (pairs : List (String × α)) : Table α :=
  pairs.foldl (fun t (key, x) => t.insert key x) empty

theorem find?_place (key k : String) (x : α) (l : List (String × α)) :
    find? k (place key x l) = if key = k then some x else find? k l := by
  induction l with
  | nil => simp [place, find?]
  | cons p rest ih =>
    obtain ⟨k', y⟩ := p
    simp only [place]
    split
    · rfl
    · split
      next heq => subst heq; simp only [find?]; split <;> rfl
      next hne =>
        simp only [find?, ih]
        by_cases hk : k' = k
        · subst hk; simp [hne]
        · simp [hk]

theorem get?_insert (t : Table α) (key k : String) (x : α) :
    (t.insert key x).get? k = if key = k then some x else t.get? k :=
  find?_place key k x t.toList

theorem find?_eq_none_of_lt {key : String} {l : List (String × α)}
    (h : ∀ e ∈ l, key < e.1) : find? key l = none := by
  induction l with
  | nil => rfl
  | cons e rest ih =>
    have hne : e.1 ≠ key := fun he => String.lt_irrefl key (he ▸ h e List.mem_cons_self)
    simp only [find?, if_neg hne]
    exact ih fun e he => h e (List.mem_cons_of_mem _ he)

theorem eq_of_find? {l m : List (String × α)} (hl : l.Pairwise fun a b => a.1 < b.1)
    (hm : m.Pairwise fun a b => a.1 < b.1) (h : ∀ key, find? key l = find? key m) : l = m := by
  induction l generalizing m with
  | nil =>
    cases m with
    | nil => rfl
    | cons e m => have := h e.1; simp [find?] at this
  | cons a l ih =>
    cases m with
    | nil => have := h a.1; simp [find?] at this
    | cons b m =>
      rw [List.pairwise_cons] at hl hm
      have hab : a.1 = b.1 := by
        by_cases hab : a.1 = b.1
        · exact hab
        · have hm' : find? a.1 m ≠ none := by
            have := h a.1
            simp only [find?, if_pos, if_neg (Ne.symm hab)] at this
            rw [← this]; simp
          have hl' : find? b.1 l ≠ none := by
            have := h b.1
            simp only [find?, if_pos, if_neg hab] at this
            rw [this]; simp
          have hba : ¬ a.1 < b.1 := fun hlt =>
            hm' (find?_eq_none_of_lt fun e he => String.lt_trans hlt (hm.1 e he))
          have hab' : ¬ b.1 < a.1 := fun hlt =>
            hl' (find?_eq_none_of_lt fun e he => String.lt_trans hlt (hl.1 e he))
          exact String.le_antisymm (String.not_lt.1 hab') (String.not_lt.1 hba)
      have hx : a.2 = b.2 := by
        have := h a.1
        simpa [find?, hab] using this
      have hrest : l = m := ih hl.2 hm.2 fun key => by
        have hkey := h key
        simp only [find?, hab] at hkey
        by_cases hk : b.1 = key
        · subst hk
          rw [find?_eq_none_of_lt hm.1, find?_eq_none_of_lt (fun e he => hab ▸ hl.1 e he)]
        · simpa [hk] using hkey
      rw [hrest, Prod.ext hab hx]

theorem ext_get? {s t : Table α} (h : ∀ key, s.get? key = t.get? key) : s = t := by
  have := eq_of_find? s.ascending t.ascending h
  cases s; cases t; cases this; rfl

end Table

end Matchday
