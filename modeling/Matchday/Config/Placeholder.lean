/-!
# Placeholders

In the text of a configuration `$` followed by a name in braces stands for a variable of the
environment.  The name is any text without a closing brace but not the empty one.  Placeholders are
found from left to right; a variable that is not set leaves its placeholder as it is, and the value
of one that is set is not looked at again.

## Main definitions

* `Placeholder.Part`, `Placeholder.parts`: a text as characters and placeholders.
* `Placeholder.substitute`: a text with the values of variables put in.
* `Placeholder.names`, `Placeholder.occursIn`: the names of the placeholders in a text, and whether
  there is one.

## Main results

* `Placeholder.flatMap_source_parts`: the parts of a text make up the text.
-/

namespace Matchday.Placeholder

/-- A piece of a text. -/
inductive Part where
  | char (c : Char)
  | placeholder (name : List Char)
deriving DecidableEq, Repr

/-- The text of a part as it was written. -/
def Part.source : Part → List Char
  | char c => [c]
  | placeholder name => '$' :: '{' :: name ++ ['}']

/-- The text of a part when variables have values. -/
def Part.value (env : String → Option String) : Part → List Char
  | char c => [c]
  | placeholder name =>
    match env (String.ofList name) with
    | some value => value.toList
    | none => (placeholder name).source

/-- The name of the placeholder at the start of a text. -/
def nameAt? : List Char → Option (List Char)
  | '$' :: '{' :: rest =>
    let name := rest.takeWhile (· != '}')
    if name.isEmpty || rest.length ≤ name.length then none else some name
  | _ => none

/-- The parts of a text whose first `skip` characters belong to a placeholder already read. -/
def partsAfter : (skip : Nat) → List Char → List Part
  | _, [] => []
  | skip + 1, _ :: cs => partsAfter skip cs
  | 0, c :: cs =>
    match nameAt? (c :: cs) with
    | some name => .placeholder name :: partsAfter (name.length + 2) cs
    | none => .char c :: partsAfter 0 cs

/-- The parts of a text, placeholders and single characters, in order. -/
def parts (s : String) : List Part :=
  partsAfter 0 s.toList

/-- A text with the values of variables put in. -/
def substitute (env : String → Option String) (s : String) : String :=
  String.ofList ((parts s).flatMap (Part.value env))

/-- Whether a part is a placeholder. -/
def Part.isPlaceholder : Part → Bool
  | char _ => false
  | placeholder _ => true

/-- The name of a placeholder. -/
def Part.name? : Part → Option String
  | char _ => none
  | placeholder name => some (String.ofList name)

/-- The names that stand in a text, each as often as it does. -/
def names (s : String) : List String :=
  (parts s).filterMap Part.name?

/-- Whether a text holds a placeholder. -/
def occursIn (s : String) : Bool :=
  (parts s).any Part.isPlaceholder

theorem partsAfter_eq_drop (skip : Nat) (cs : List Char) :
    partsAfter skip cs = partsAfter 0 (cs.drop skip) := by
  induction cs generalizing skip with
  | nil => cases skip <;> simp [partsAfter]
  | cons c cs ih =>
    cases skip with
    | zero => rfl
    | succ skip => simpa [partsAfter] using ih skip

/-- A placeholder at the start of a text is written there. -/
theorem eq_append_of_nameAt? {cs name : List Char} (h : nameAt? cs = some name) :
    cs = (Part.placeholder name).source ++ cs.drop (name.length + 3) := by
  unfold nameAt? at h
  split at h
  next rest =>
    simp only at h
    split at h
    · simp at h
    · next hne =>
      simp only [Bool.or_eq_true, decide_eq_true_eq, not_or, Nat.not_le] at hne
      have hname : rest.takeWhile (· != '}') = name := Option.some.inj h
      have hrest : rest = name ++ rest.dropWhile (· != '}') := by
        rw [← hname, List.takeWhile_append_dropWhile]
      have hlen : 0 < (rest.dropWhile (· != '}')).length := by
        have := congrArg List.length hrest
        rw [List.length_append] at this
        rw [hname] at hne
        omega
      obtain ⟨d, ds, hds⟩ := List.exists_cons_of_length_pos hlen
      have hd : d = '}' := by
        have hne' : rest.dropWhile (· != '}') ≠ [] := by rw [hds]; simp
        simpa [hds] using List.head_dropWhile_not (· != '}') hne'
      rw [hds, hd] at hrest
      subst hrest
      simp [Part.source]
  next => simp at h

theorem flatMap_source_partsAfter (n : Nat) (cs : List Char) (h : cs.length ≤ n) :
    (partsAfter 0 cs).flatMap Part.source = cs := by
  induction n generalizing cs with
  | zero => simp [List.length_eq_zero_iff.1 (Nat.le_zero.1 h), partsAfter]
  | succ n ih =>
    cases cs with
    | nil => simp [partsAfter]
    | cons c cs =>
      simp only [partsAfter]
      split
      next name hname =>
        have happend := eq_append_of_nameAt? hname
        rw [List.flatMap_cons, partsAfter_eq_drop, ih _ (by simp at h ⊢; omega)]
        simpa using happend.symm
      next =>
        rw [List.flatMap_cons, ih cs (by simp at h; omega)]
        rfl

/-- The parts of a text make up the text. -/
theorem flatMap_source_parts (s : String) : (parts s).flatMap Part.source = s.toList :=
  flatMap_source_partsAfter _ _ (Nat.le_refl _)

end Matchday.Placeholder
