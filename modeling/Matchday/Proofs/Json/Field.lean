import Matchday.Proofs.Json.Member
import Mathlib.Data.List.Nodup

/-!
# Fields of a record

A field that was read stays in the draft: no other field touches it, and a second value for it is an
error.  So a text in front of a field leads the reader of the record to the reader of the field.

## Main definitions

* `Preserves`: what is read into a draft has nothing to do with a field that the draft has.
* `Record.HasField`, `Record.Holds`: a record has a field apart from its other fields, and at a
  place of its values.
* `Way`: the texts that lead from one reader to another, and the place that they lead to.

## Main results

* `Record.Holds.carries`: behind the value of a field the rest keeps it in its place.
* `Record.Holds.leads`: a record is read up to the value of a field.
-/

namespace Matchday.Json

variable {α β γ σ : Type}

/-! ### Fields in drafts -/

section Drafts

variable {get : σ → Option β} {set : σ → β → σ}

/-- What is read into a draft has nothing to do with a field that the draft has already: the field
stays, and with another value in it the same is read. -/
structure Preserves (get : σ → Option β) (set : σ → β → σ) (read : σ → Reader σ) : Prop where
  get_eq : ∀ ⦃draft x src draft' rest⦄, get draft = some x → read draft src = .ok (draft', rest) →
    get draft' = some x
  read_set : ∀ ⦃draft x⦄, get draft = some x → ∀ y, read (set draft y) = (set · y) <$> read draft

namespace Preserves

theorem pure : Preserves get set (fun draft => Pure.pure draft) where
  get_eq draft x src draft' rest hx h := by
    cases h
    exact hx
  read_set draft x hx y := (map_pure _ _).symm

theorem throw (e : ReadError) : Preserves get set (fun _ => throw e) where
  get_eq _ _ _ _ _ _ h := nomatch h
  read_set _ _ _ _ := rfl

theorem bind {read next : σ → Reader σ} (hread : Preserves get set read)
    (hnext : Preserves get set next) : Preserves get set fun draft => read draft >>= next where
  get_eq draft x src draft' rest hx h := by
    obtain ⟨draft₁, src₁, h₁, h₂⟩ := bind_apply_eq_ok_iff.1 h
    exact hnext.get_eq (hread.get_eq hx h₁) h₂
  read_set draft x hx y := by
    rw [hread.read_set hx, bind_map_left, map_bind]
    funext src
    exact bind_apply_congr fun draft' src' h =>
      congrFun (hnext.read_set (hread.get_eq hx h) y) src'

/-- Something else is read before. -/
theorem after {first : Reader γ} {read : γ → σ → Reader σ} (h : ∀ z, Preserves get set (read z)) :
    Preserves get set fun draft => first >>= fun z => read z draft where
  get_eq draft x src draft' rest hx hread := by
    obtain ⟨z, src₁, -, hread⟩ := bind_apply_eq_ok_iff.1 hread
    exact (h z).get_eq hx hread
  read_set draft x hx y := by
    rw [map_bind]
    exact congrArg _ (funext fun z => (h z).read_set hx y)

theorem ite {test : σ → Bool} (htest : ∀ draft x, test (set draft x) = test draft)
    {read read' : σ → Reader σ} (h : Preserves get set read) (h' : Preserves get set read') :
    Preserves get set fun draft => if test draft then read draft else read' draft where
  get_eq draft x src draft' rest hx hread := by
    split at hread
    · exact h.get_eq hx hread
    · exact h'.get_eq hx hread
  read_set draft x hx y := by
    rw [htest]
    split
    · exact h.read_set hx y
    · exact h'.read_set hx y

end Preserves

/-- Another field is apart from a field: reading it does not touch the field. -/
structure Field.IsApart (get : σ → Option β) (set : σ → β → σ) (field : Field σ) : Prop where
  isGiven_set : ∀ draft x, field.isGiven (set draft x) = field.isGiven draft
  preserves : Preserves get set field.fill
  get_fill : ∀ ⦃draft src draft' rest⦄, field.fill draft src = .ok (draft', rest) →
    get draft' = get draft

theorem Field.isApart_of {name : String} {get' : σ → Option γ} {set' : σ → γ → σ}
    {read : Reader γ} {mayEnd : Bool} (hget' : ∀ draft x, get' (set draft x) = get' draft)
    (hget : ∀ draft z, get (set' draft z) = get draft)
    (hset : ∀ draft x z, set' (set draft x) z = set (set' draft z) x) :
    (Field.of name get' set' read mayEnd).IsApart get set := by
  have hfill ⦃draft src draft' rest⦄
      (h : (Field.of name get' set' read mayEnd).fill draft src = .ok (draft', rest)) :
      get draft' = get draft := by
    obtain ⟨z, src', -, h⟩ := bind_apply_eq_ok_iff.1 h
    cases h
    exact hget draft z
  exact {
    isGiven_set draft x := congrArg Option.isSome (hget' draft x)
    preserves := {
      get_eq draft x src draft' rest hx h := (hfill h).trans hx
      read_set draft x hx y := by
        change (read >>= fun z => Pure.pure (set' (set draft y) z)) = _ <$> (read >>= fun z => _)
        rw [map_bind]
        refine congrArg _ (funext fun z => ?_)
        rw [map_pure, hset] }
    get_fill := hfill }

namespace Record

variable {r : Record σ α} {name : String} {read : Reader β} {mayEnd : Bool}

/-- A record has a field apart from its other fields.  For a record that is called `record` in the
namespace at hand this is seen from its definition. -/
structure HasField (r : Record σ α) (name : String) (get : σ → Option β) (set : σ → β → σ)
    (read : Reader β) (mayEnd : Bool) : Prop where
  find?_eq : r.fields.find? (·.name == name) = some (.of name get set read mayEnd) := by rfl
  nodup : (r.fields.map (·.name)).Nodup := by decide
  isApart : ∀ field ∈ r.fields, field.name ≠ name → field.IsApart get set := by
    repeat' refine List.forall_mem_cons.2 ⟨?_, ?_⟩
    all_goals first
      | exact List.forall_mem_nil _
      | exact fun hname => absurd rfl hname
      | exact fun _ => Matchday.Json.Field.isApart_of (fun _ _ => rfl) (fun _ _ => rfl)
          fun _ _ _ => rfl
  get_set : ∀ draft x, get (set draft x) = some x := by exact fun _ _ => rfl
  get_blank : get r.blank = none := by rfl

theorem HasField.eq_of_name_eq (h : r.HasField name get set read mayEnd) {field : Field σ}
    (hfield : field ∈ r.fields) (hname : field.name = name) :
    field = .of name get set read mayEnd :=
  List.inj_on_of_nodup_map h.nodup hfield (List.mem_of_find?_eq_some h.find?_eq) hname

theorem HasField.drafts (h : r.HasField name get set read mayEnd) :
    r.drafts.HasField name get set read mayEnd :=
  ⟨h.find?_eq, h.nodup, h.isApart, h.get_set, h.get_blank⟩

/-- A record has a field at a place of its values. -/
structure Holds (r : Record σ α) (name : String) (get : σ → Option β) (set : σ → β → σ)
    (read : Reader β) (mayEnd : Bool) (p : Place α β) : Prop extends
    HasField r name get set read mayEnd where
  set_set : ∀ draft x y, set (set draft x) y = set draft y := by exact fun _ _ _ => rfl
  get?_build : ∀ draft x, get draft = some x →
      p.get? <$> r.build draft = (fun _ => some x) <$> r.build draft := by
    rintro ⟨⟩ x ⟨⟩
    first
      | rfl
      | simp only [record, map_bind, map_pure]; rfl
  build_set : ∀ draft x (g : β → β), get draft = some x →
      r.build (set draft (g x)) = p.modify g <$> r.build draft := by
    rintro ⟨⟩ x g ⟨⟩
    first
      | rfl
      | simp only [record, map_bind, map_pure]; rfl

theorem preserves_fillItems (i : Nat) {fields : List (Field σ)}
    (hfields : ∀ field ∈ fields, field.IsApart get set) :
    Preserves get set (r.fillItems i fields) := by
  induction fields generalizing i with
  | nil => exact .pure
  | cons field fields ih =>
    rw [List.forall_mem_cons] at hfields
    obtain ⟨⟨-, hfield⟩, hfields⟩ := hfields
    have hget {draft draft₁ : σ} {x : β} {src src' : Source} (hx : get draft = some x)
        (hitem : nextItem (i == 0) (field.fill draft) src = .ok (some draft₁, src')) :
        get draft₁ = some x := by
      obtain ⟨src₁, hfill⟩ := exists_of_nextItem_eq_some hitem
      exact hfield.get_eq hx hfill
    exact {
      get_eq := fun draft x src draft' rest hx hread => by
        obtain ⟨item, src', hitem, hread⟩ := bind_apply_eq_ok_iff.1 hread
        cases item with
        | some draft₁ => exact (ih (i + 1) hfields).get_eq (hget hx hitem) hread
        | none =>
          dsimp only at hread
          split at hread
          · exact (ih (i + 1) hfields).get_eq hx hread
          · exact nomatch hread
      read_set := fun draft x hx y => by
        simp only [fillItems, hfield.read_set hx y, ← map_nextItem, map_bind, bind_map_left]
        funext src
        refine bind_apply_congr fun item src' hitem => ?_
        cases item with
        | some draft₁ => exact congrFun ((ih (i + 1) hfields).read_set (hget hx hitem) y) src'
        | none =>
          dsimp only [Option.map_none]
          split
          · exact congrFun ((ih (i + 1) hfields).read_set hx y) src'
          · rfl }

namespace Holds

variable {p : Place α β}

theorem preserves_fillMember (h : r.Holds name get set read mayEnd p) (key : String) :
    Preserves get set (r.fillMember key) := by
  cases hfind : r.fields.find? (·.name == key) with
  | none =>
    have hskip : r.fillMember key = fun draft =>
        colon >>= fun _ => skipValue >>= fun _ => pure draft := by
      funext draft
      rw [fillMember, hfind]
    rw [hskip]
    exact .after fun _ => .after fun _ => .pure
  | some field =>
    have hfill : r.fillMember key = fun draft => if field.isGiven draft
        then throw (.duplicateField key) else colon >>= fun _ => field.fill draft := by
      funext draft
      rw [fillMember, hfind]
      rfl
    by_cases hname : field.name = name
    · have hkey : field.name = key := by simpa using List.find?_some hfind
      obtain rfl : name = key := hname.symm.trans hkey
      rw [h.find?_eq] at hfind
      obtain rfl := Option.some.inj hfind
      -- The draft has this field already, so that a second one is an error.
      have hgiven {draft : σ} {x : β} (hx : get draft = some x) :
          r.fillMember name draft = throw (.duplicateField name) := by
        rw [hfill]
        exact if_pos (congrArg Option.isSome hx)
      exact {
        get_eq := fun draft x src draft' rest hx hread => by
          rw [hgiven hx] at hread
          cases hread
        read_set := fun draft x hx y => by
          rw [hgiven hx, hgiven (h.get_set draft y)]
          rfl }
    · have hapart := h.isApart field (List.mem_of_find?_eq_some hfind) hname
      rw [hfill]
      exact .ite hapart.isGiven_set (.throw _) (.after fun _ => hapart.preserves)

theorem preserves_fillMembers (h : r.Holds name get set read mayEnd p) (fuel : Nat)
    (first : Bool) : Preserves get set (r.fillMembers fuel first) := by
  induction fuel generalizing first with
  | zero => exact .pure
  | succ fuel ih =>
    refine Preserves.after fun key => ?_
    cases key with
    | none => exact .pure
    | some key => exact (h.preserves_fillMember key).bind (ih false)

theorem preserves_allMembers (h : r.Holds name get set read mayEnd p) (first : Bool) :
    Preserves get set (r.allMembers first) where
  get_eq draft x src draft' rest hx hread :=
    (h.preserves_fillMembers (src.length + 1) first).get_eq hx hread
  read_set draft x hx y := by
    funext src
    have hfuel := congrFun ((h.preserves_fillMembers (src.length + 1) first).read_set hx y) src
    exact hfuel

/-- What is read behind the value of a field ends with the value in its place. -/
theorem carries (h : r.Holds name get set read mayEnd p) {rest : σ → Reader σ}
    (hrest : Preserves get set rest) (close : Reader Unit) (draft : σ) :
    p.Carries fun x => rest (set draft x) >>= r.finish close where
  get?_eq x src y rest' hread := by
    obtain ⟨draft', src₁, hdraft, hread⟩ := bind_apply_eq_ok_iff.1 hread
    have hx : get draft' = some x := hrest.get_eq (h.get_set draft x) hdraft
    have hbuild := h.get?_build draft' x hx
    rw [(finish_eq_ok_iff.1 hread).1] at hbuild
    exact Except.ok.inj hbuild
  map_modify g x := by
    have hx : get (set draft x) = some x := h.get_set draft x
    rw [← h.set_set draft x (g x), hrest.read_set hx, bind_map_left, map_bind]
    funext src
    refine bind_apply_congr fun draft' src' hdraft => ?_
    have hbuild := h.build_set draft' x g (hrest.get_eq hx hdraft)
    rw [finish_eq_map close hbuild]

/-- **A record is read up to the value of a field**, and then the value that is there. -/
theorem leads (h : r.Holds name get set read mayEnd p) (hconsume : r.FieldsConsume)
    (hskips : SkipsBlanks read) {u : List Char} (hu : r.Reaches name u) :
    Leads r.read read p u where
  starts src _ := hu.starts src
  exists_next := by
    cases hu with
    | @member draft u cs b b' hu hkey hnew hb hb' =>
      refine ⟨_, h.carries (h.preserves_allMembers false) advance draft, fun src _ => ?_⟩
      have hgiven : (Field.of name get set read mayEnd).isGiven draft = false :=
        hnew _ (List.mem_of_find?_eq_some h.find?_eq) rfl
      have htext : (u ++ cs ++ b ++ ':' :: b').map some ++ src =
          u.map some ++ (cs.map some ++ (b.map some ++ some ':' :: (b'.map some ++ src))) := by
        simp
      have hmember : r.fillMember name draft (b.map some ++ some ':' :: (b'.map some ++ src)) =
          (read >>= fun x => pure (set draft x)) src := by
        rw [fillMember_eq h.find?_eq hgiven hb]
        exact bind_apply_congr_left (hskips hb' src) _
      rw [htext, hu.read_eq hconsume hkey, bind_apply_congr_left hmember, bind_assoc]
      simp only [pure_bind]
      rfl
    | @item i field fields draft u hu hname =>
      have hsuffix := hu.suffix
      obtain rfl := h.eq_of_name_eq (hsuffix.subset List.mem_cons_self) hname
      have hnodup := h.nodup.sublist (hsuffix.sublist.map Field.name)
      have hapart : ∀ field ∈ fields, field.IsApart get set := by
        intro field hfield
        refine h.isApart field (hsuffix.subset (List.mem_cons_of_mem _ hfield)) fun heq => ?_
        rw [List.map_cons, List.nodup_cons] at hnodup
        exact hnodup.1 (List.mem_map.2 ⟨field, hfield, heq⟩)
      refine ⟨_, h.carries (preserves_fillItems (r := r) (i + 1) hapart) endArray draft,
        fun src hsrc => ?_⟩
      rw [hu.read_eq hsrc]
      change ((read >>= fun x => pure (set draft x)) >>= r.afterField (i + 1) fields) src = _
      rw [bind_assoc]
      simp only [pure_bind]
      rfl

end Holds

end Record

end Drafts

/-! ### Ways -/

/-- A way from one reader to another: the texts that lead along it, and the place that it leads
to. -/
structure Way (read : Reader α) (inner : Reader β) where
  IsText : List Char → Prop
  place : Place α β
  leads : ∀ ⦃u⦄, IsText u → Leads read inner place u

namespace Way

/-- One way after another. -/
def comp {read : Reader α} {mid : Reader β} {inner : Reader γ} (w : Way read mid)
    (w' : Way mid inner) : Way read inner where
  IsText u := ∃ v v', w.IsText v ∧ w'.IsText v' ∧ u = v ++ v'
  place := w.place.comp w'.place
  leads := by
    rintro _ ⟨v, v', hv, hv', rfl⟩
    exact (w.leads hv).comp (w'.leads hv')

/-- The way to an item of an array. -/
def item {item : Reader α} (h : Consumes 1 item) (i : Nat) : Way (list item) item where
  IsText u := ∃ xs : List α, OpensList item xs u ∧ xs.length = i
  place := .item i
  leads := by
    rintro u ⟨xs, hu, rfl⟩
    exact hu.leads h

end Way

/-- The way to the value of a field. -/
def Record.Holds.way {r : Record σ α} {name : String} {get : σ → Option β} {set : σ → β → σ}
    {read : Reader β} {mayEnd : Bool} {p : Place α β} (h : r.Holds name get set read mayEnd p)
    (hconsume : r.FieldsConsume) (hskips : SkipsBlanks read) : Way r.read read where
  IsText := r.Reaches name
  place := p
  leads _ hu := h.leads hconsume hskips hu

end Matchday.Json
