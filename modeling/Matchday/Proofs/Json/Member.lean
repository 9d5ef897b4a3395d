import Matchday.Proofs.Json.Place

/-!
# Texts in front of a field

A record is written as an object or as an array.  In an object its members stand in any order, with
others that are passed over, with blanks anywhere and with any characters of the keys escaped; in an
array its fields stand in their order.  Either way the reader fills a draft with what stands in
front of a field, and goes on with the field itself.

## Main definitions

* `SkipsBlanks`: blanks in front make no difference to a reader.
* `Record.IsMember`, `Record.OpensObject`: the texts of an object in front of a key.
* `Record.OpensItems`: the texts of an array in front of a field.
* `Record.Reaches`: the texts in front of the value of a field, in either form.

## Main results

* `Record.OpensObject.read_eq`, `Record.OpensItems.read_eq`: how a record is read on from there.
-/

namespace Matchday.Json

variable {α β σ : Type}

/-! ### Blanks -/

/-- Blanks in front make no difference to a reader. -/
def SkipsBlanks (read : Reader α) : Prop :=
  ∀ ⦃b : List Char⦄, IsBlank b → ∀ src : Source, read (b.map some ++ src) = read src

theorem skipsBlanks_next?_bind (f : Option (Option Char) → Reader α) :
    SkipsBlanks (next? >>= f) := by
  intro b hb src
  have hdrop : (b.map some ++ src).dropWhile isSpace = src.dropWhile isSpace :=
    List.dropWhile_append_of_pos (List.forall_mem_map.2 hb)
  change f _ ((b.map some ++ src).dropWhile isSpace) = f _ (src.dropWhile isSpace)
  rw [hdrop]

theorem skipsBlanks_integer (wanted : String) (convert : Int → Option α) :
    SkipsBlanks (integer wanted convert) :=
  skipsBlanks_next?_bind _

theorem skipsBlanks_list (item : Reader α) : SkipsBlanks (list item) :=
  skipsBlanks_next?_bind _

theorem Record.skipsBlanks_read (r : Record σ α) : SkipsBlanks r.read :=
  skipsBlanks_next?_bind _

/-! ### Members and items -/

namespace Record

variable {r : Record σ α} {name : String}

/-- A text of a member, which leads from one draft of a record to another. -/
inductive IsMember (r : Record σ α) : List Char → σ → σ → Prop
  | field {key : String} {field : Field σ} {draft draft' : σ} {cs b v : List Char}
    (hkey : IsKeyText key cs) (hfield : r.fields.find? (·.name == key) = some field)
    (hnew : field.isGiven draft = false) (hb : IsBlank b)
    (hv : IsTextOf (field.fill draft) v draft') : IsMember r (cs ++ b ++ ':' :: v) draft draft'
  | unknown {key : String} {draft : σ} {cs b v : List Char} (hkey : IsKeyText key cs)
    (hkey' : r.fields.find? (·.name == key) = none) (hb : IsBlank b)
    (hv : IsTextOf skipValue v ()) : IsMember r (cs ++ b ++ ':' :: v) draft draft

/-- A member is its key and what is read behind it. -/
theorem IsMember.exists_key {m : List Char} {draft draft' : σ} (hm : r.IsMember m draft draft') :
    ∃ key cs tail, m = cs ++ tail ∧ IsKeyText key cs ∧ ∀ ⦃rest : Source⦄, rest.EndsValue →
      r.fillMember key draft (tail.map some ++ rest) = .ok (draft', rest) := by
  cases hm with
  | @field key field _ _ cs b v hkey hfield hnew hb hv =>
    refine ⟨key, cs, b ++ ':' :: v, List.append_assoc .., hkey, fun rest hrest => ?_⟩
    rw [List.map_append, List.append_assoc]
    exact (fillMember_eq hfield hnew hb _).trans (hv hrest)
  | @unknown key _ cs b v hkey hkey' hb hv =>
    refine ⟨key, cs, b ++ ':' :: v, List.append_assoc .., hkey, fun rest hrest => ?_⟩
    rw [fillMember, hkey', List.map_append, List.append_assoc]
    dsimp only
    exact (bind_apply_of_eq_ok (colon_eq_ok hb _)).trans (bind_apply_of_eq_ok (hv hrest))

/-- A text that leads into an object, past some members, to where the next key stands. -/
inductive OpensObject (r : Record σ α) : σ → List Char → Prop
  | first {b : List Char} (hb : IsBlank b) : OpensObject r r.blank ('\x7b' :: b)
  | next {draft draft' : σ} {u m b b' : List Char} (hu : OpensObject r draft u)
    (hm : r.IsMember m draft draft') (hb : IsBlank b) (hb' : IsBlank b') :
    OpensObject r draft' (u ++ m ++ b ++ ',' :: b')

/-- The end of a record whose draft is complete. -/
def finish (r : Record σ α) (close : Reader Unit) (draft : σ) : Reader α := do
  let x ← r.build draft
  close
  return x

/-- What is read of an object behind a member. -/
def afterMember (r : Record σ α) (draft : σ) : Reader α := do
  r.finish advance (← r.allMembers false draft)

theorem finish_eq_ok_iff {close : Reader Unit} {draft : σ} {src rest : Source} {x : α} :
    r.finish close draft src = .ok (x, rest) ↔
      r.build draft = .ok x ∧ close src = .ok ((), rest) := by
  rw [finish]
  cases r.build draft with
  | error e => exact iff_of_false nofun fun h => nomatch h.1
  | ok y =>
    change (close >>= fun _ => pure y) src = _ ↔ _
    rw [bind_apply_eq_ok_iff]
    constructor
    · rintro ⟨_, _, hclose, ⟨⟩⟩
      exact ⟨rfl, hclose⟩
    · rintro ⟨⟨⟩, hclose⟩
      exact ⟨(), rest, hclose, rfl⟩

theorem finish_eq_map {f : α → α} (close : Reader Unit) {draft draft' : σ}
    (h : r.build draft' = f <$> r.build draft) :
    r.finish close draft' = f <$> r.finish close draft := by
  rw [finish, finish, h]
  cases r.build draft with
  | error e => rfl
  | ok x =>
    change (close >>= fun _ => pure (f x)) = f <$> (close >>= fun _ => pure x)
    simp only [map_bind, map_pure]

theorem OpensObject.read_eq (h : r.FieldsConsume) {draft : σ} {u : List Char}
    (hu : r.OpensObject draft u) {key : String} {cs : List Char} (hcs : IsKeyText key cs)
    (src : Source) : r.read (u.map some ++ (cs.map some ++ src)) =
      (r.fillMember key draft >>= r.afterMember) src := by
  induction hu generalizing key cs src with
  | @first b hb =>
    have hmembers : (do
        let draft ← r.allMembers true r.blank
        let x ← r.build draft
        advance
        return x : Reader α) (b.map some ++ (cs.map some ++ src)) =
        (r.fillMember key r.blank >>= r.afterMember) src := by
      have hkey := nextKey_of_isKeyText hcs .opening hb src
      rw [List.map_nil, List.nil_append] at hkey
      rw [allMembers_eq h, bind_assoc, bind_apply_of_eq_ok hkey]
      simp only [bind_assoc]
      rfl
    refine (next?_bind isBlank_nil (rfl : isSpace (some '\x7b') = false) _ _).trans ?_
    dsimp only
    rw [if_pos rfl, advance_bind, get_bind]
    exact hmembers
  | @next draft draft' u m b b' hu hm hb hb' ih =>
    obtain ⟨key', cs', tail, rfl, hkey', hmember⟩ := hm.exists_key
    have htext : (u ++ (cs' ++ tail) ++ b ++ ',' :: b').map some ++ (cs.map some ++ src) =
        u.map some ++ (cs'.map some ++ (tail.map some ++ ((b ++ [',']).map some ++
          (b'.map some ++ (cs.map some ++ src))))) := by simp
    rw [htext, ih hkey', bind_apply_of_eq_ok (hmember (Source.endsValue_comma hb _)),
      afterMember, allMembers_eq h, bind_assoc,
      bind_apply_of_eq_ok (nextKey_of_isKeyText hcs (.comma hb) hb' src)]
    simp only [bind_assoc]
    rfl

/-- A text that leads into an array which is read as a record, past the first `i` fields, to where
the next one stands. -/
inductive OpensItems (r : Record σ α) : Nat → List (Field σ) → σ → List Char → Prop
  | first {b : List Char} (hb : IsBlank b) : OpensItems r 0 r.fields r.blank ('[' :: b)
  | next {i : Nat} {field : Field σ} {fields : List (Field σ)} {draft draft' : σ}
    {u v b b' : List Char} (hu : OpensItems r i (field :: fields) draft u)
    (hstart : Source.StartsValue (v.map some)) (hv : IsTextOf (field.fill draft) v draft')
    (hb : IsBlank b) (hb' : IsBlank b') :
    OpensItems r (i + 1) fields draft' (u ++ v ++ b ++ ',' :: b')

/-- What is read of an array behind the first `i` fields. -/
def afterField (r : Record σ α) (i : Nat) (fields : List (Field σ)) (draft : σ) : Reader α := do
  r.finish endArray (← r.fillItems i fields draft)

theorem OpensItems.read_eq {i : Nat} {field : Field σ} {fields : List (Field σ)} {draft : σ}
    {u : List Char} (hu : r.OpensItems i (field :: fields) draft u) {src : Source}
    (hsrc : src.StartsValue) :
    r.read (u.map some ++ src) = (field.fill draft >>= r.afterField (i + 1) fields) src := by
  generalize hfields : field :: fields = fields' at hu
  induction hu generalizing field fields src with
  | @first b hb =>
    have hitems : (do
        let draft ← r.fillItems 0 r.fields r.blank
        let x ← r.build draft
        endArray
        return x : Reader α) (b.map some ++ src) =
        (field.fill r.blank >>= r.afterField 1 fields) src := by
      rw [← hfields, fillItems, bind_assoc]
      refine (bind_apply_congr_left (nextItem_of_startsValue _ .opening hb hsrc) _).trans ?_
      simp only [bind_assoc, pure_bind]
      rfl
    refine (next?_bind isBlank_nil (rfl : isSpace (some '[') = false) _ _).trans ?_
    dsimp only
    rw [if_neg (by decide), if_pos rfl, advance_bind]
    exact hitems
  | @next i field' fields' draft draft' u v b b' hu hstart hv hb hb' ih =>
    subst hfields
    have htext : (u ++ v ++ b ++ ',' :: b').map some ++ src =
        u.map some ++ (v.map some ++ ((b ++ [',']).map some ++ (b'.map some ++ src))) := by simp
    rw [htext, ih (hstart.append _) rfl, bind_apply_of_eq_ok (hv (Source.endsValue_comma hb _)),
      afterField, fillItems, bind_assoc]
    refine (bind_apply_congr_left (nextItem_of_startsValue _ (.comma hb) hb' hsrc) _).trans ?_
    simp only [bind_assoc, pure_bind]
    rfl

/-- A text that leads to the value of a field, in either form of a record. -/
inductive Reaches (r : Record σ α) (name : String) : List Char → Prop
  | member {draft : σ} {u cs b b' : List Char} (hu : r.OpensObject draft u)
    (hkey : IsKeyText name cs)
    (hnew : ∀ field ∈ r.fields, field.name = name → field.isGiven draft = false) (hb : IsBlank b)
    (hb' : IsBlank b') : Reaches r name (u ++ cs ++ b ++ ':' :: b')
  | item {i : Nat} {field : Field σ} {fields : List (Field σ)} {draft : σ} {u : List Char}
    (hu : r.OpensItems i (field :: fields) draft u) (hname : field.name = name) : Reaches r name u

theorem OpensObject.exists_eq_cons {draft : σ} {u : List Char} (hu : r.OpensObject draft u) :
    ∃ u', u = '\x7b' :: u' := by
  induction hu with
  | @first b hb => exact ⟨b, rfl⟩
  | next _ _ _ _ ih =>
    obtain ⟨u', rfl⟩ := ih
    simp

theorem OpensItems.exists_eq_cons {i : Nat} {fields : List (Field σ)} {draft : σ} {u : List Char}
    (hu : r.OpensItems i fields draft u) : ∃ u', u = '[' :: u' := by
  induction hu with
  | @first b hb => exact ⟨b, rfl⟩
  | next _ _ _ _ _ ih =>
    obtain ⟨u', rfl⟩ := ih
    simp

theorem OpensItems.suffix {i : Nat} {fields : List (Field σ)} {draft : σ} {u : List Char}
    (hu : r.OpensItems i fields draft u) : fields <:+ r.fields := by
  induction hu with
  | first => exact List.suffix_rfl
  | next _ _ _ _ _ ih => exact (List.suffix_cons _ _).trans ih

theorem Reaches.starts {u : List Char} (hu : r.Reaches name u) (src : Source) :
    Source.StartsValue (u.map some ++ src) := by
  cases hu with
  | member hu =>
    obtain ⟨u', rfl⟩ := hu.exists_eq_cons
    exact ⟨'\x7b', _, rfl, rfl, by decide⟩
  | item hu =>
    obtain ⟨u', rfl⟩ := hu.exists_eq_cons
    exact ⟨'[', _, rfl, rfl, by decide⟩

end Record

end Matchday.Json
