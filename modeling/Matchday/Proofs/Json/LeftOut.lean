import Matchday.Proofs.Json.Reading

/-!
# Members left out

Some members of objects have a default value, and may be left out where they hold it.  A record
whose remaining members are read is the same as with all of them: the draft is filled from its
first field to its last, and a member that is not there leaves its field empty.

## Main definitions

* `KeepsMembers`: members without some that hold their default value.
* `LeavesOut`: a value without some such members, anywhere in it.

## Main results

* `KeepsMembers.of_required`: members without a default value are all there.
* `Record.Fills.of_optional`: a member with a default value, there or not.
-/

namespace Matchday.Json

/-- Members without some that hold their default value; the values of the others are related. -/
inductive KeepsMembers (defaults : List (String × Json)) (R : Json → Json → Prop) :
    List (String × Json) → List (String × Json) → Prop
  | nil : KeepsMembers defaults R [] []
  | keep {key : String} {j j' : Json} {ms ms' : List (String × Json)} (hj : R j j')
    (hms : KeepsMembers defaults R ms ms') :
    KeepsMembers defaults R ((key, j) :: ms) ((key, j') :: ms')
  | drop {m : String × Json} {ms ms' : List (String × Json)} (hm : m ∈ defaults)
    (hms : KeepsMembers defaults R ms ms') : KeepsMembers defaults R (m :: ms) ms'

/-- A value without some members that hold their default value, anywhere in it. -/
inductive LeavesOut (defaults : List (String × Json)) : Json → Json → Prop
  | null : LeavesOut defaults .null .null
  | bool (b : Bool) : LeavesOut defaults (.bool b) (.bool b)
  | int (n : Int) : LeavesOut defaults (.int n) (.int n)
  | float (x : Float) : LeavesOut defaults (.float x) (.float x)
  | text (s : String) : LeavesOut defaults (.text s) (.text s)
  | array {items items' : List Json} (h : List.Forall₂ (LeavesOut defaults) items items') :
    LeavesOut defaults (.array items) (.array items')
  | object {ms ms' : List (String × Json)}
    (h : KeepsMembers defaults (LeavesOut defaults) ms ms') :
    LeavesOut defaults (.object ms) (.object ms')

variable {defaults : List (String × Json)}

/-! ### Nothing left out -/

mutual

theorem LeavesOut.refl (defaults : List (String × Json)) : ∀ j : Json, LeavesOut defaults j j
  | .null => .null
  | .bool b => .bool b
  | .int n => .int n
  | .float x => .float x
  | .text s => .text s
  | .array items => .array (LeavesOut.forall₂_refl defaults items)
  | .object ms => .object (KeepsMembers.refl defaults ms)

theorem LeavesOut.forall₂_refl (defaults : List (String × Json)) :
    ∀ items : List Json, List.Forall₂ (LeavesOut defaults) items items
  | [] => .nil
  | item :: items => .cons (LeavesOut.refl defaults item) (LeavesOut.forall₂_refl defaults items)

theorem KeepsMembers.refl (defaults : List (String × Json)) :
    ∀ ms : List (String × Json), KeepsMembers defaults (LeavesOut defaults) ms ms
  | [] => .nil
  | (_, j) :: ms => .keep (LeavesOut.refl defaults j) (KeepsMembers.refl defaults ms)

end

/-! ### Required members -/

/-- Neither an array nor an object. -/
def IsScalar : Json → Bool
  | .array _ => false
  | .object _ => false
  | _ => true

theorem LeavesOut.eq_of_isScalar {j j' : Json} (h : LeavesOut defaults j j') (hj : j.IsScalar) :
    j' = j := by
  cases h with
  | array => exact absurd hj Bool.false_ne_true
  | object => exact absurd hj Bool.false_ne_true
  | _ => rfl

/-- **Members without a default value are all there**; scalars are unchanged. -/
theorem KeepsMembers.of_required (required : List (String × Json))
    (hrequired : ∀ m ∈ required, m.1 ∉ defaults.map Prod.fst ∧ m.2.IsScalar)
    {ms ms' : List (String × Json)}
    (h : KeepsMembers defaults (LeavesOut defaults) (required ++ ms) ms') :
    ∃ ms'', ms' = required ++ ms'' ∧ KeepsMembers defaults (LeavesOut defaults) ms ms'' := by
  induction required generalizing ms' with
  | nil => exact ⟨ms', rfl, h⟩
  | cons m required ih =>
    rw [List.forall_mem_cons] at hrequired
    cases h with
    | keep hj hms =>
      obtain ⟨ms'', rfl, hrest⟩ := ih hrequired.2 hms
      rw [hj.eq_of_isScalar hrequired.1.2]
      exact ⟨ms'', rfl, hrest⟩
    | drop hm => exact absurd (List.mem_map_of_mem hm) hrequired.1.1

/-! ### Optional members -/

variable {α β σ : Type}

/-- **A member with a default value**, there or not, leads to a draft whose field has the value or
nothing, in which case the value is the default. -/
theorem Record.Fills.of_optional {key : String} {j : Json} {ms ms' : List (String × Json)}
    (h : KeepsMembers defaults (LeavesOut defaults) ((key, j) :: ms) ms') (r : Record σ α)
    (put : Option β → σ) {get : σ → Option β} {set : σ → β → σ} {read : Reader β} {mayEnd : Bool}
    (hfield : r.fields.find? (·.name == key) = some (.of key get set read mayEnd))
    (hget : get (put none) = none) {x default : β} (hset : set (put none) x = put (some x))
    (hread : ∀ j', LeavesOut defaults j j' → Reads read j' x)
    (hdefault : (key, j) ∈ defaults → x = default) :
    ∃ given : Option β, given.getD default = x ∧ ∃ ms'',
      KeepsMembers defaults (LeavesOut defaults) ms ms'' ∧
        ∀ draft, r.Fills ms'' (put given) draft → r.Fills ms' (put none) draft := by
  cases h with
  | keep hj hms =>
    refine ⟨some x, rfl, _, hms, fun draft hdraft => .cons hfield ?_ ?_ hdraft⟩
    · exact congrArg Option.isSome hget
    · have hfill := (hread _ hj).fill key get set mayEnd (put none)
      rwa [hset] at hfill
  | drop hm hms => exact ⟨none, (hdefault hm).symm, _, hms, fun _ hdraft => hdraft⟩

/-- Arrays of objects, with members of the items left out. -/
theorem reads_list_of_leavesOut {encode : β → Json} {read : Reader β}
    (hobject : ∀ x, ∃ ms, encode x = .object ms)
    (hitem : ∀ x j, LeavesOut defaults (encode x) j → Reads read j x) (xs : List β) (j : Json)
    (h : LeavesOut defaults (.array (xs.map encode)) j) : Reads (list read) j xs := by
  cases h with | @array _ js hitems
  have hread : List.Forall₂ (fun x j => LeavesOut defaults (encode x) j) xs js :=
    List.forall₂_map_left_iff.1 hitems
  have hreads : List.Forall₂ (fun j x => (∃ ms, j = .object ms) ∧ Reads read j x) js xs := by
    refine (hread.imp fun x j hx => ⟨?_, hitem x j hx⟩).flip
    obtain ⟨ms, hms⟩ := hobject x
    rw [hms] at hx
    cases hx
    exact ⟨_, rfl⟩
  obtain ⟨hobjects, hxs⟩ := (List.forall₂_and_left _ _).1 hreads
  exact reads_list hxs hobjects

end Matchday.Json
