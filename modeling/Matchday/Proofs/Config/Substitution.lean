import Matchday.Proofs.Config.Placeholder

/-!
# Substitution in one pass

Placeholders are replaced from left to right.  The text before the first placeholder stays as it is,
then comes the value of the variable or, when it is not set, the placeholder itself, and the rest is
a text of its own.  So a value is never looked through for placeholders, and no character outside
the placeholders changes.

## Main definitions

* `Placeholder.StartsNone`: a text in which no placeholder starts, whatever follows it.

## Main results

* `Placeholder.substitute_eq_self`: a text none of whose variables is set stays as it is.
* `Placeholder.partsAfter_append`: a text in which no placeholder starts is one of characters.
* `Placeholder.substitute_singlePass`: the first placeholder of a text and the rest of it.
-/

namespace Matchday.Placeholder

variable {env : String → Option String} {s : String} {cs front : List Char}

/-- A text in which no placeholder starts, whatever follows it: each `${` in it, if there is any, is
directly followed by the closing brace. -/
def StartsNone (cs : List Char) : Prop :=
  ∀ front back, cs = front ++ '$' :: '{' :: back → back.head? = some '}'

theorem StartsNone.of_not_isInfix (h : ¬ ['$', '{'] <:+: cs) : StartsNone cs := by
  rintro front back rfl
  exact absurd ⟨front, back, by simp⟩ h

theorem StartsNone.tail {c : Char} (h : StartsNone (c :: cs)) : StartsNone cs := by
  rintro front back rfl
  exact h (c :: front) back rfl

/-- The start of a placeholder is not in such a text, nor does it begin there and end behind it. -/
theorem StartsNone.nameAt?_append {c : Char} (h : StartsNone (c :: front)) {rest : List Char}
    (hrest : rest.head? ≠ some '{') : nameAt? (c :: front ++ rest) = none := by
  rw [Option.eq_none_iff_forall_ne_some]
  intro name hname
  obtain ⟨⟨hne, hbrace⟩, after, heq⟩ := nameAt?_eq_some_iff.1 hname
  have htail : c = '$' ∧ front ++ rest = '{' :: (name ++ '}' :: after) := by
    simpa [Part.source] using heq
  obtain ⟨rfl, htail⟩ := htail
  cases front with
  | nil =>
    rw [List.nil_append] at htail
    exact hrest (by rw [htail]; rfl)
  | cons d back =>
    obtain ⟨rfl, hback⟩ := List.cons.inj htail
    obtain ⟨back, rfl⟩ := List.head?_eq_some_iff.1 (h [] back rfl)
    -- The closing brace is the first character of the name, or there is no name.
    cases name with
    | nil => exact hne rfl
    | cons e name =>
      obtain ⟨rfl, -⟩ := List.cons.inj hback
      exact hbrace List.mem_cons_self

/-- **A text in which no placeholder starts is one of characters.** -/
theorem partsAfter_append (h : StartsNone front) {rest : List Char}
    (hrest : rest.head? ≠ some '{') :
    partsAfter 0 (front ++ rest) = front.map .char ++ partsAfter 0 rest := by
  induction front with
  | nil => rfl
  | cons c front ih =>
    have hnone := h.nameAt?_append hrest
    rw [List.cons_append] at hnone ⊢
    rw [partsAfter_cons_of_eq_none hnone, ih h.tail, List.map_cons, List.cons_append]

/-- A placeholder has a value of its own only when the variable is set. -/
theorem Part.value_eq_source {part : Part} (h : ∀ n, part.name? = some n → env n = none) :
    part.value env = part.source := by
  cases part with
  | char c => rfl
  | placeholder name => rw [value, h _ rfl]

/-- **A text none of whose variables is set stays as it is.** -/
theorem substitute_eq_self (h : ∀ n ∈ names s, env n = none) : substitute env s = s := by
  have hvalues : (parts s).flatMap (Part.value env) = (parts s).flatMap Part.source :=
    List.flatMap_congr fun part hpart => Part.value_eq_source fun n hn =>
      h n (List.mem_filterMap.2 ⟨part, hpart, hn⟩)
  rw [substitute, hvalues, flatMap_source_parts, String.ofList_toList]

theorem names_eq_nil_of_not_isWritten (h : ¬ IsWritten s.toList) : names s = [] := by
  refine List.eq_nil_iff_forall_not_mem.2 fun n hn => h ?_
  exact occursIn_iff_isWritten.1 (List.any_eq_true.2 ⟨_, mem_names_iff.1 hn, rfl⟩)

theorem substitute_placeholder_append {a n b : String} (ha : StartsNone a.toList)
    (hn : IsName n.toList) :
    substitute env (a ++ ("$\x7b" ++ n ++ "\x7d") ++ b) =
      a ++ (env n).getD ("$\x7b" ++ n ++ "\x7d") ++ substitute env b := by
  have hsource : ("$\x7b" ++ n ++ "\x7d").toList = (Part.placeholder n.toList).source := by
    simp [Part.source]
  have hvalue : Part.value env (.placeholder n.toList) =
      ((env n).getD ("$\x7b" ++ n ++ "\x7d")).toList := by
    rw [Part.value, String.ofList_toList]
    cases env n with
    | none => exact hsource.symm
    | some value => rfl
  have hparts : parts (a ++ ("$\x7b" ++ n ++ "\x7d") ++ b) =
      a.toList.map .char ++ .placeholder n.toList :: parts b := by
    rw [parts, String.toList_append, String.toList_append, hsource, List.append_assoc,
      partsAfter_append ha (by simp [Part.source]), partsAfter_source_append hn, parts]
  rw [substitute, hparts, List.flatMap_append, List.flatMap_cons, flatMap_value_map_char, hvalue,
    substitute, String.ofList_append, String.ofList_append, String.ofList_toList,
    String.ofList_toList, ← String.append_assoc]

/-- **Substitution is a single pass from left to right.**  With no variable set a text stays as it
is, and so does a text without placeholders in every environment.  Text
without `${` in front of a placeholder stays as it is, then comes the value of the variable or the
placeholder itself, and behind it the substitution starts anew. -/
theorem substitute_singlePass (env : String → Option String) :
    ((∀ n, env n = none) → ∀ s, substitute env s = s) ∧
      (∀ s : String, ¬ IsWritten s.toList → substitute env s = s) ∧
      ∀ a n b : String, ¬ ['$', '{'] <:+: a.toList → n ≠ "" → '}' ∉ n.toList →
        substitute env (a ++ ("$\x7b" ++ n ++ "\x7d") ++ b) =
          a ++ (env n).getD ("$\x7b" ++ n ++ "\x7d") ++ substitute env b := by
  refine ⟨fun hunset s => substitute_eq_self fun n _ => hunset n, fun s hs => ?_, ?_⟩
  · refine substitute_eq_self fun n hn => ?_
    rw [names_eq_nil_of_not_isWritten hs] at hn
    exact absurd hn List.not_mem_nil
  · intro a n b ha hne hbrace
    exact substitute_placeholder_append (.of_not_isInfix ha)
      ⟨mt String.toList_eq_nil_iff.1 hne, hbrace⟩

/-- Two variables, the value of the first of which looks like a placeholder for the second. -/
def nested (n : String) : Option String :=
  if n = "OUTER" then some "$\x7bINNER\x7d" else if n = "INNER" then some "key" else none

theorem substitute_nested :
    substitute (fun _ => none) "$\x7bOUTER\x7d" = "$\x7bOUTER\x7d" ∧
      substitute nested "$\x7b\x7d $\x7bOUTER" = "$\x7b\x7d $\x7bOUTER" ∧
      substitute nested "$$\x7bOUTER\x7d $\x7bINNER\x7d" = "$$\x7bINNER\x7d key" := by
  have hunwritten : ¬ IsWritten "$\x7b\x7d $\x7bOUTER".toList := by
    rw [← occursIn_iff_isWritten]
    decide +kernel
  have hinner : substitute nested " $\x7bINNER\x7d" = " key" := by decide +kernel
  have houter := (substitute_singlePass nested).2.2 "$" "OUTER" " $\x7bINNER\x7d" (by decide)
    (by decide) (by decide)
  rw [hinner] at houter
  exact ⟨(substitute_singlePass fun _ => none).1 (fun _ => rfl) _,
    (substitute_singlePass nested).2.1 _ hunwritten, houter⟩

end Matchday.Placeholder
