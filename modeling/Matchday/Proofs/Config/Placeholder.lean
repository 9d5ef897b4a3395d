import Matchday.Config.Placeholder
import Mathlib.Data.List.Basic

/-!
# Where placeholders stand

A placeholder is found exactly where `$` is followed by a name in braces, unless an earlier one
already takes in some of its characters.  So there is a placeholder among the parts of a text
exactly when one is written anywhere in it.

## Main definitions

* `Placeholder.IsName`: the names that placeholders can have.
* `Placeholder.IsWritten`: a placeholder is written somewhere in a text.

## Main results

* `Placeholder.nameAt?_eq_some_iff`: the placeholder at the start of a text.
* `Placeholder.partsAfter_source_append`: a placeholder at the start of a text is its first part.
* `Placeholder.occursIn_iff_isWritten`: a text has a placeholder among its parts when one is written
  in it.
-/

namespace Matchday.Placeholder

variable {cs name : List Char}

/-- A name that a placeholder can have. -/
structure IsName (name : List Char) : Prop where
  ne_nil : name ≠ []
  brace_notMem : '}' ∉ name

/-- A placeholder is written somewhere in a text. -/
def IsWritten (cs : List Char) : Prop :=
  ∃ before name after, IsName name ∧ cs = before ++ (Part.placeholder name).source ++ after

theorem takeWhile_ne_brace (h : '}' ∉ name) (rest : List Char) :
    (name ++ '}' :: rest).takeWhile (· != '}') = name := by
  have hname : ∀ c ∈ name, (c != '}') = true := by
    intro c hc
    rw [bne_iff_ne]
    rintro rfl
    exact h hc
  rw [List.takeWhile_append_of_pos hname, List.takeWhile_cons_of_neg (by decide), List.append_nil]

theorem nameAt?_source_append (h : IsName name) (rest : List Char) :
    nameAt? ((Part.placeholder name).source ++ rest) = some name := by
  have hsource : (Part.placeholder name).source ++ rest = '$' :: '{' :: (name ++ '}' :: rest) := by
    simp [Part.source]
  rw [hsource, nameAt?]
  simp only [takeWhile_ne_brace h.brace_notMem]
  rw [if_neg]
  simp [h.ne_nil]

/-- **The placeholder at the start of a text** has a name without a brace, and not the empty one. -/
theorem nameAt?_eq_some_iff :
    nameAt? cs = some name ↔
      IsName name ∧ ∃ rest, cs = (Part.placeholder name).source ++ rest := by
  constructor
  · intro h
    refine ⟨?_, _, eq_append_of_nameAt? h⟩
    unfold nameAt? at h
    split at h
    next rest =>
      simp only at h
      split at h
      next => cases h
      next hne =>
        obtain rfl := Option.some.inj h
        refine ⟨fun hnil => hne (by simp [hnil]), fun hmem => ?_⟩
        exact absurd (List.all_eq_true.1 List.all_takeWhile _ hmem) (by decide)
    next => cases h
  · rintro ⟨h, rest, rfl⟩
    exact nameAt?_source_append h rest

theorem partsAfter_cons_of_eq_none {c : Char} (h : nameAt? (c :: cs) = none) :
    partsAfter 0 (c :: cs) = .char c :: partsAfter 0 cs := by
  rw [partsAfter, h]

theorem partsAfter_source_append (h : IsName name) (rest : List Char) :
    partsAfter 0 ((Part.placeholder name).source ++ rest) =
      .placeholder name :: partsAfter 0 rest := by
  have hname := nameAt?_source_append h rest
  have hcons : (Part.placeholder name).source ++ rest = '$' :: ('{' :: name ++ ['}'] ++ rest) := rfl
  rw [hcons] at hname ⊢
  rw [partsAfter, hname]
  dsimp only
  rw [partsAfter_eq_drop, List.drop_left' (by simp)]

/-- Every placeholder among the parts of a text has a name. -/
theorem isName_of_mem_partsAfter {skip : Nat} (h : .placeholder name ∈ partsAfter skip cs) :
    IsName name := by
  induction cs generalizing skip with
  | nil => cases skip <;> cases h
  | cons c cs ih =>
    cases skip with
    | succ skip => exact ih h
    | zero =>
      rw [partsAfter] at h
      split at h
      next found hfound =>
        rcases List.mem_cons.1 h with heq | h
        · obtain rfl := Part.placeholder.inj heq
          exact (nameAt?_eq_some_iff.1 hfound).1
        · exact ih h
      next =>
        rcases List.mem_cons.1 h with heq | h
        · cases heq
        · exact ih h

/-- Where a placeholder is written, one is found there or before. -/
theorem exists_mem_partsAfter (h : IsWritten cs) : ∃ name, .placeholder name ∈ partsAfter 0 cs := by
  obtain ⟨before, name, after, hname, rfl⟩ := h
  induction before with
  | nil =>
    rw [List.nil_append, partsAfter_source_append hname]
    exact ⟨name, List.mem_cons_self⟩
  | cons c before ih =>
    rw [List.cons_append, List.cons_append]
    cases hfound : nameAt? (c :: (before ++ (Part.placeholder name).source ++ after)) with
    | some found =>
      rw [partsAfter, hfound]
      exact ⟨found, List.mem_cons_self⟩
    | none =>
      obtain ⟨found, hmem⟩ := ih
      rw [partsAfter_cons_of_eq_none hfound]
      exact ⟨found, List.mem_cons_of_mem _ hmem⟩

/-- **A text has a placeholder among its parts** exactly when one is written in it. -/
theorem occursIn_iff_isWritten {s : String} : occursIn s ↔ IsWritten s.toList := by
  rw [occursIn, List.any_eq_true]
  constructor
  · rintro ⟨part, hmem, hpart⟩
    cases part with
    | char c => cases hpart
    | placeholder name =>
      obtain ⟨before, after, hparts⟩ := List.mem_iff_append.1 hmem
      refine ⟨before.flatMap Part.source, name, after.flatMap Part.source,
        isName_of_mem_partsAfter hmem, ?_⟩
      rw [← flatMap_source_parts, hparts, List.flatMap_append, List.flatMap_cons, List.append_assoc]
  · intro h
    obtain ⟨name, hmem⟩ := exists_mem_partsAfter h
    exact ⟨.placeholder name, hmem, rfl⟩

/-- Characters are their own values. -/
theorem flatMap_value_map_char (env : String → Option String) (cs : List Char) :
    (cs.map Part.char).flatMap (Part.value env) = cs := by
  induction cs with
  | nil => rfl
  | cons c cs ih => rw [List.map_cons, List.flatMap_cons, ih]; rfl

theorem mem_names_iff {s n : String} : n ∈ names s ↔ .placeholder n.toList ∈ parts s := by
  rw [names, List.mem_filterMap]
  constructor
  · rintro ⟨part, hmem, hpart⟩
    cases part with
    | char c => cases hpart
    | placeholder name =>
      obtain rfl := Option.some.inj hpart
      rwa [String.toList_ofList]
  · intro h
    exact ⟨_, h, congrArg some String.ofList_toList⟩

end Matchday.Placeholder
