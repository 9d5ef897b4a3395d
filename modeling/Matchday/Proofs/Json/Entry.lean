import Matchday.Proofs.Json.Field
import Matchday.Proofs.Json.Located

/-!
# Records and the members of their texts

A record is written as an object or as an array.  The members of the object, or the items of the
array, are found in the text without reading them.  A field of the record is not there when the text
has no member for it; otherwise it is what is read where the member stands.

## Main definitions

* `entries`, `Source.member?`: where the values for the fields of a record stand.
* `Record.FieldsPassOver`: the readers of the fields of a record end where values end.
* `Offers`, `OrElse`: a value that may be missing or `null`, and one with a default.

## Main results

* `Record.exists_draft_of_read`: a record is read from the members of its text.
* `Record.passesOver_read`: and it ends where the value ends that is passed over.
-/

namespace Matchday.Json

variable {α β σ : Type}

/-- Where the values for the fields of a record stand: those of the members of an object, under
their keys, or those of the items of an array, under the names of the fields in order. -/
def entries (names : List String) : Reader (List (String × Source)) := do
  match ← next? with
  | none => throw .endInValue
  | some c =>
    if c = some '\x7b' then
      advance
      let ms ← members here ((← get).length + 1) true
      advance
      return ms
    else if c = some '[' then
      advance
      return names.zip (← arrayTail here)
    else throw .expectedValue

/-- Where the value for a field of a record stands, if it is there. -/
def Source.member? (names : List String) (name : String) (src : Source) : Option Source :=
  match entries names src with
  | .ok (es, _) => es.lookup name
  | .error _ => none

example : (Source.ofString "\x7b\"name\": null, \"city\": \"Madrid\"\x7d").member?
    ["name", "city"] "city" = some (.ofString " \"Madrid\"\x7d") := by
  decide +kernel

namespace Record

variable {r : Record σ α}

/-- The readers of the fields of a record end where values end. -/
def FieldsPassOver (r : Record σ α) : Prop :=
  ∀ field ∈ r.fields, ∀ draft, PassesOver (field.fill draft)

/-- What members with these names make of a field of a draft: a field that is not there yet is read
from its member, and one that is there has no member and stays. -/
structure FillsField (name : String) (get : σ → Option β) (read : Reader β) (draft : σ)
    (ms : List (String × Source)) (draft' : σ) : Prop where
  of_none : get draft = none → Option.Rel (IsRead read) (ms.lookup name) (get draft')
  of_some : ∀ x, get draft = some x → ms.lookup name = none ∧ get draft' = some x

namespace FillsField

variable {name : String} {get : σ → Option β} {read : Reader β} {draft draft' draft'' : σ}
  {ms : List (String × Source)}

theorem nil : FillsField name get read draft [] draft where
  of_none h := by
    rw [h]
    exact .none
  of_some _ h := ⟨rfl, h⟩

/-- A member for another field. -/
theorem other {key : String} (hne : key ≠ name) (hget : get draft' = get draft) (v : Source)
    (h : FillsField name get read draft' ms draft'') :
    FillsField name get read draft ((key, v) :: ms) draft'' := by
  have hlookup : ((key, v) :: ms).lookup name = ms.lookup name := by
    rw [List.lookup_cons, beq_false_of_ne hne.symm]
  exact {
    of_none hnone := hlookup ▸ h.of_none (hget.trans hnone)
    of_some x hx := hlookup ▸ h.of_some x (hget.trans hx) }

/-- The member for the field. -/
theorem own {v : Source} {x : β} (hnone : get draft = none) (hv : IsRead read v x)
    (hget : get draft' = some x) (h : FillsField name get read draft' ms draft'') :
    FillsField name get read draft ((name, v) :: ms) draft'' where
  of_none _ := by
    rw [List.lookup_cons_self, (h.of_some x hget).2]
    exact .some hv
  of_some y hy := nomatch hnone.symm.trans hy

end FillsField

/-- A field of a draft that is read is there, with the value that was read. -/
theorem HasField.get_fill {name : String} {get : σ → Option β} {set : σ → β → σ} {read : Reader β}
    {mayEnd : Bool} (h : r.HasField name get set read mayEnd) {draft draft' : σ}
    {src rest : Source}
    (hread : (Field.of name get set read mayEnd).fill draft src = .ok (draft', rest)) :
    ∃ x, IsRead read src x ∧ get draft' = some x := by
  obtain ⟨x, src', hx, hread⟩ := bind_apply_eq_ok_iff.1 hread
  cases hread
  exact ⟨x, ⟨_, hx⟩, h.get_set draft x⟩

/-- What one member makes of a draft, for each field. -/
theorem fillMember_cases (hpass : r.FieldsPassOver) {key : String} {draft draft' : σ}
    {src rest : Source} (hread : r.fillMember key draft src = .ok (draft', rest)) :
    ∃ v, colon src = .ok ((), v) ∧ skipValue v = .ok ((), rest) ∧
      ∀ {β : Type} {name : String} {get : σ → Option β} {set : σ → β → σ} {read : Reader β}
        {mayEnd : Bool}, r.HasField name get set read mayEnd →
        (key = name → get draft = none ∧ ∃ x, IsRead read v x ∧ get draft' = some x) ∧
          (key ≠ name → get draft' = get draft) := by
  cases hfind : r.fields.find? (·.name == key) with
  | some field =>
    have hmem := List.mem_of_find?_eq_some hfind
    have hname : field.name = key := by simpa using List.find?_some hfind
    rw [fillMember, hfind] at hread
    dsimp only at hread
    split at hread
    next => cases hread
    next hgiven =>
      obtain ⟨_, v, hcolon, hread⟩ := bind_apply_eq_ok_iff.1 hread
      refine ⟨v, hcolon, hpass field hmem draft hread, fun h => ⟨?_, fun hne => ?_⟩⟩
      · rintro rfl
        rw [h.find?_eq] at hfind
        obtain rfl := Option.some.inj hfind
        exact ⟨Option.not_isSome_iff_eq_none.1 hgiven, h.get_fill hread⟩
      · exact (h.isApart field hmem (hname.trans_ne hne)).get_fill hread
  | none =>
    rw [fillMember, hfind] at hread
    obtain ⟨_, v, hcolon, hread⟩ := bind_apply_eq_ok_iff.1 hread
    obtain ⟨_, src', hskip, hread⟩ := bind_apply_eq_ok_iff.1 hread
    cases hread
    refine ⟨v, hcolon, hskip, fun h => ⟨?_, fun _ => rfl⟩⟩
    rintro rfl
    rw [h.find?_eq] at hfind
    cases hfind

/-- The members that are read into a draft stand where the members stand that are passed over. -/
theorem exists_members_of_fillMembers (hpass : r.FieldsPassOver) {fuel : Nat} {first : Bool}
    {draft draft' : σ} {src rest : Source}
    (hread : r.fillMembers fuel first draft src = .ok (draft', rest)) :
    ∃ ms, members here fuel first src = .ok (ms, rest) ∧
      ∀ {β : Type} {name : String} {get : σ → Option β} {set : σ → β → σ} {read : Reader β}
        {mayEnd : Bool}, r.HasField name get set read mayEnd →
        FillsField name get read draft ms draft' := by
  induction fuel generalizing first draft src with
  | zero =>
    cases hread
    exact ⟨[], rfl, fun _ => .nil⟩
  | succ fuel ih =>
    obtain ⟨key, src₁, hnext, hread⟩ := bind_apply_eq_ok_iff.1 hread
    cases key with
    | none =>
      cases hread
      exact ⟨[], bind_apply_of_eq_ok hnext, fun _ => .nil⟩
    | some key =>
      obtain ⟨draft₁, src₂, hmember, hread⟩ := bind_apply_eq_ok_iff.1 hread
      obtain ⟨v, hcolon, hskip, hfield⟩ := fillMember_cases hpass hmember
      obtain ⟨ms, hms, hrest⟩ := ih hread
      refine ⟨(key, v) :: ms, ?_, fun {_ name _ _ _ _} h => ?_⟩
      · exact (bind_apply_of_eq_ok hnext).trans <| (bind_apply_of_eq_ok hcolon).trans <|
          (bind_apply_of_eq_ok (here_eq_ok hskip)).trans <| bind_apply_of_eq_ok hms
      · by_cases hname : key = name
        · subst hname
          obtain ⟨hnone, x, hv, hget⟩ := (hfield h).1 rfl
          exact .own hnone hv hget (hrest h)
        · exact .other hname ((hfield h).2 hname) v (hrest h)

theorem endArray_cases {src rest : Source} (hread : endArray src = .ok ((), rest)) :
    src.dropWhile isSpace = some ']' :: rest := by
  obtain ⟨c, src', hsrc, h⟩ := exists_cons_of_next?_bind (by intro hnone; cases hnone) hread
  dsimp only at h
  split at h
  next hc =>
    subst hc
    cases h
    exact hsrc
  split at h
  next =>
    rw [advance_bind] at h
    obtain ⟨d, src₁, -, h⟩ := bind_apply_eq_ok_iff.1 h
    split at h <;> exact nomatch h
  next => exact nomatch h

theorem allItems_here_of_close {first : Bool} {src rest : Source}
    (h : src.dropWhile isSpace = some ']' :: rest) :
    allItems here first src = .ok ([], some ']' :: rest) := by
  rw [allItems_eq consumes_here]
  exact bind_apply_of_eq_ok (nextItem_of_close h)

/-- The items that are read into a draft stand where the items stand that are passed over. -/
theorem exists_items_of_fillItems (hpass : r.FieldsPassOver) {i : Nat} {fields : List (Field σ)}
    (hfields : fields ⊆ r.fields) (hnodup : (fields.map (·.name)).Nodup) {draft draft' : σ}
    {src src' rest : Source} (hread : r.fillItems i fields draft src = .ok (draft', src'))
    (hend : endArray src' = .ok ((), rest)) :
    ∃ vs src₁, allItems here (i == 0) src = .ok (vs, src₁) ∧ endArray src₁ = .ok ((), rest) ∧
      ∀ {β : Type} {name : String} {get : σ → Option β} {set : σ → β → σ} {read : Reader β}
        {mayEnd : Bool}, r.HasField name get set read mayEnd →
        (name ∈ fields.map (·.name) → get draft = none) →
        FillsField name get read draft ((fields.map (·.name)).zip vs) draft' := by
  induction fields generalizing i draft src with
  | nil =>
    cases hread
    exact ⟨[], _, allItems_here_of_close (endArray_cases hend), rfl, fun _ _ => .nil⟩
  | cons field fields ih =>
    rw [List.cons_subset] at hfields
    rw [List.map_cons, List.nodup_cons] at hnodup
    obtain ⟨item, src₁, hnext, hread⟩ := bind_apply_eq_ok_iff.1 hread
    obtain ⟨rfl, src₂, hclose, rfl⟩ | ⟨c, src₂, draft₁, rfl, hstands, hc, hfill⟩ :=
      nextItem_cases hnext
    · -- The array ends in front of the field, so that the rest has no items either.
      have hmore : r.fillItems (i + 1) fields draft (some ']' :: src₂) = .ok (draft', src') := by
        dsimp only at hread
        split at hread
        · exact hread
        · exact nomatch hread
      obtain ⟨vs, src₃, hvs, hend', hfield⟩ := ih hfields.2 hnodup.2 hmore
      have hnil : vs = [] ∧ src₃ = some ']' :: src₂ := by
        have hvs' : allItems here (i + 1 == 0) (some ']' :: src₂) = .ok ([], some ']' :: src₂) :=
          allItems_here_of_close rfl
        rw [hvs] at hvs'
        exact Prod.mk.inj (Except.ok.inj hvs')
      obtain ⟨rfl, rfl⟩ := hnil
      refine ⟨[], _, allItems_here_of_close hclose, hend', fun h hnone => ?_⟩
      have hfield := hfield h fun hname => hnone (List.mem_cons_of_mem _ hname)
      rwa [List.zip_nil_right] at hfield ⊢
    · obtain ⟨vs, src₃, hvs, hend', hfield⟩ := ih hfields.2 hnodup.2 hread
      refine ⟨(c :: src₂) :: vs, src₃, ?_, hend', fun {_ name _ _ _ _} h hnone => ?_⟩
      · have hhere : nextItem (i == 0) here src = .ok (some (c :: src₂), src₁) := by
          rw [nextItem_of_standsNext hstands hc, ← bind_pure_comp]
          exact bind_apply_of_eq_ok (here_eq_ok (hpass field hfields.1 draft hfill))
        rw [allItems_eq consumes_here]
        exact (bind_apply_of_eq_ok hhere).trans (bind_apply_of_eq_ok hvs)
      · rw [List.map_cons, List.zip_cons_cons]
        by_cases hname : field.name = name
        · obtain rfl := h.eq_of_name_eq hfields.1 hname
          obtain ⟨x, hx, hget⟩ := h.get_fill hfill
          refine .own (hnone List.mem_cons_self) hx hget (hfield h fun hmem => ?_)
          exact absurd hmem hnodup.1
        · have hget := (h.isApart field hfields.1 hname).get_fill hfill
          refine .other hname hget _ (hfield h fun hmem => ?_)
          exact hget.trans (hnone (List.mem_cons_of_mem _ hmem))

/-- **A record is read from the members of its text**: each of its fields from the member or item
that it has there. -/
theorem exists_draft_of_read (hpass : r.FieldsPassOver) (hnodup : (r.fields.map (·.name)).Nodup)
    {src rest : Source} {x : α} (hread : r.read src = .ok (x, rest)) :
    ∃ draft, r.build draft = .ok x ∧ skipValue src = .ok ((), rest) ∧
      ∀ {β : Type} {name : String} {get : σ → Option β} {set : σ → β → σ} {read : Reader β}
        {mayEnd : Bool}, r.HasField name get set read mayEnd →
        Option.Rel (IsRead read) (src.member? (r.fields.map (·.name)) name) (get draft) := by
  obtain ⟨c, src', hsrc, h⟩ := exists_cons_of_next?_bind (by intro hnone; cases hnone) hread
  dsimp only at h
  split at h
  next hc =>
    subst hc
    rw [advance_bind, get_bind] at h
    obtain ⟨draft, src₁, hmembers, h⟩ := bind_apply_eq_ok_iff.1 h
    obtain ⟨hbuild, hclose⟩ := finish_eq_ok_iff.1 (show r.finish advance draft src₁ = _ from h)
    cases hclose
    obtain ⟨ms, hms, hfield⟩ := exists_members_of_fillMembers hpass hmembers
    refine ⟨draft, hbuild, skipValue_of_members hsrc (Nat.lt_succ_self _) hms, fun h => ?_⟩
    have hentries : entries (r.fields.map (·.name)) src = .ok (ms, src₁.tail) := by
      rw [entries, next?_bind_of_dropWhile hsrc]
      dsimp only
      rw [if_pos rfl, advance_bind, get_bind]
      exact bind_apply_of_eq_ok hms
    rw [Source.member?, hentries]
    exact (hfield h).of_none h.get_blank
  split at h
  next hc =>
    subst hc
    rw [advance_bind] at h
    obtain ⟨draft, src₁, hitems, h⟩ := bind_apply_eq_ok_iff.1 h
    obtain ⟨hbuild, hclose⟩ := finish_eq_ok_iff.1 (show r.finish endArray draft src₁ = _ from h)
    obtain ⟨vs, src₂, hvs, hend, hfield⟩ :=
      exists_items_of_fillItems hpass (List.Subset.refl _) hnodup hitems hclose
    have htail : arrayTail here src' = .ok (vs, rest) := by
      have hitems' : items here (src'.length + 1) true src' = .ok (vs, src₂) := hvs
      rw [arrayTail, get_bind, bind_apply_of_eq_ok hitems']
      exact bind_apply_of_eq_ok hend
    refine ⟨draft, hbuild, skipValue_of_items hsrc htail, fun h => ?_⟩
    have hentries : entries (r.fields.map (·.name)) src =
        .ok ((r.fields.map (·.name)).zip vs, rest) := by
      rw [entries, next?_bind_of_dropWhile hsrc]
      dsimp only
      rw [if_neg (by decide), if_pos rfl, advance_bind]
      exact bind_apply_of_eq_ok htail
    rw [Source.member?, hentries]
    exact (hfield h fun _ => h.get_blank).of_none h.get_blank
  next => exact absurd h (unexpected_ne_ok _ _ _ _ _)

/-- What is read at a place is read from the members that stand there. -/
theorem exists_draft_of_isRead (hpass : r.FieldsPassOver)
    (hnodup : (r.fields.map (·.name)).Nodup) {src : Source} {x : α} (h : IsRead r.read src x) :
    ∃ draft, r.build draft = .ok x ∧
      ∀ {β : Type} {name : String} {get : σ → Option β} {set : σ → β → σ} {read : Reader β}
        {mayEnd : Bool}, r.HasField name get set read mayEnd →
        Option.Rel (IsRead read) (src.member? (r.fields.map (·.name)) name) (get draft) := by
  obtain ⟨rest, hread⟩ := h
  obtain ⟨draft, hbuild, -, hfield⟩ := exists_draft_of_read hpass hnodup hread
  exact ⟨draft, hbuild, hfield⟩

theorem passesOver_read (hpass : r.FieldsPassOver) (hnodup : (r.fields.map (·.name)).Nodup) :
    PassesOver r.read := fun _ _ _ hread =>
  have ⟨_, _, hskip, _⟩ := exists_draft_of_read hpass hnodup hread
  hskip

end Record

theorem PassesOver.fill {read : Reader β} (h : PassesOver read) (name : String)
    (get : σ → Option β) (set : σ → β → σ) (mayEnd : Bool) (draft : σ) :
    PassesOver ((Field.of name get set read mayEnd).fill draft) := by
  intro src draft' rest hread
  obtain ⟨x, src', hx, hread⟩ := bind_apply_eq_ok_iff.1 hread
  cases hread
  exact h hx

/-! ### Values that may be missing -/

/-- What a text has for an optional value: nothing, `null`, or a value. -/
inductive Offers (read : Reader α) : Option Source → Option α → Prop
  | absent : Offers read none none
  | null {src rest : Source} (h : src.dropWhile isSpace = "null".toList.map some ++ rest) :
    Offers read (some src) none
  | present {src : Source} {x : α} (h : IsRead read src x) : Offers read (some src) (some x)

/-- What a text has for a value with a default. -/
inductive OrElse (P : Source → α → Prop) (default : α) : Option Source → α → Prop
  | absent : OrElse P default none default
  | present {src : Source} {x : α} (h : P src x) : OrElse P default (some src) x

/-- A value that must be there stands somewhere. -/
theorem exists_of_rel_require {P Q : Source → α → Prop} {name : String} {place : Option Source}
    {y : Option α} {x : α} (h : Option.Rel P place y) (hrequire : require name y = .ok x)
    (hPQ : ∀ ⦃src z⦄, P src z → Q src z) : ∃ src, place = some src ∧ Q src x := by
  cases h with
  | none => exact nomatch hrequire
  | some h =>
    cases hrequire
    exact ⟨_, rfl, hPQ h⟩

theorem OrElse.of_rel {P Q : Source → α → Prop} {default : α} {place : Option Source}
    {x : Option α} (h : Option.Rel P place x) (hPQ : ∀ ⦃src y⦄, P src y → Q src y) :
    OrElse Q default place (x.getD default) := by
  cases h with
  | none => exact .absent
  | some h => exact .present (hPQ h)

theorem word_eq_ok_iff {cs : List Char} {src rest : Source} :
    word cs src = .ok ((), rest) ↔ src = cs.map some ++ rest := by
  induction cs generalizing src with
  | nil =>
    change Except.ok ((), src) = _ ↔ _
    simp
  | cons c cs ih =>
    cases src with
    | nil => exact iff_of_false nofun nofun
    | cons d src =>
      rw [word, List.map_cons, List.cons_append, List.cons.injEq]
      dsimp only
      split
      next hd => rw [ih, and_iff_right hd]
      next hd => exact iff_of_false nofun fun h => hd h.1

/-- A value or `null`, at a place that may be missing. -/
theorem offers_of_rel_orNull {read : Reader α}
    (hskips : ∀ src, read (src.dropWhile isSpace) = read src) {place : Option Source}
    {x : Option (Option α)} (h : Option.Rel (IsRead (orNull read)) place x) :
    Offers read place x.join := by
  cases h with
  | none => exact .absent
  | @some src y h =>
    obtain ⟨rest, hread⟩ := h
    obtain ⟨c, src', hc, h⟩ := bind_apply_eq_ok_iff.1 hread
    obtain ⟨hhead, rfl⟩ := Prod.mk.inj (Except.ok.inj hc)
    split at h
    next hnull =>
      rw [hnull, List.head?_eq_some_iff] at hhead
      obtain ⟨src', hsrc⟩ := hhead
      rw [hsrc, advance_bind] at h
      obtain ⟨_, src₁, hword, h⟩ := bind_apply_eq_ok_iff.1 h
      cases h
      exact .null (hsrc.trans (congrArg (some 'n' :: ·) (word_eq_ok_iff.1 hword)))
    next =>
      obtain ⟨x, src₁, hx, h⟩ := bind_apply_eq_ok_iff.1 h
      cases h
      exact .present ⟨_, hskips src ▸ hx⟩

end Matchday.Json
