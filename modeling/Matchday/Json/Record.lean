import Matchday.Json.Reader

/-!
# Reading records

A record is written as an object with a member for each field, in any order, or as an array of its
fields in order.  Members without a field are passed over.  A field must not occur twice.

## Main definitions

* `Json.Field`: how one field of a record is read into a draft of the record.
* `Json.Record`: the fields of a record, and what becomes of a complete draft.
* `Json.Record.read`: the reader of a record.
-/

namespace Matchday.Json

variable {σ α β : Type}

/-- One field of a record, read into a draft. -/
structure Field (σ : Type) where
  name : String
  /-- Whether the draft has the field already. -/
  isGiven : σ → Bool
  /-- Reads the value of the field and puts it into the draft. -/
  fill : σ → Reader σ
  /-- Whether an array may end before the field. -/
  mayEnd : Bool

/-- The field with a given place in the draft. -/
def Field.of (name : String) (get : σ → Option β) (set : σ → β → σ) (read : Reader β)
    (mayEnd : Bool) : Field σ where
  name
  isGiven := fun draft => (get draft).isSome
  fill := fun draft => do return set draft (← read)
  mayEnd

/-- A record: its name in messages, its fields in order, the draft without any field, and the value
of a draft. -/
structure Record (σ α : Type) where
  name : String
  fields : List (Field σ)
  blank : σ
  build : σ → Except ReadError α

/-- The value of a field that must be there. -/
def require (name : String) : Option β → Except ReadError β
  | some x => .ok x
  | none => .error (.missingField name)

namespace Record

/-- How messages call the record. -/
def wanted (r : Record σ α) : String :=
  s!"struct {r.name}"

/-- How messages call the record when an array is too short for it. -/
def wantedLength (r : Record σ α) : String :=
  s!"struct {r.name} with {r.fields.length} elements"

/-- One member of the object, its key being read. -/
def fillMember (r : Record σ α) (key : String) (draft : σ) : Reader σ := do
  match r.fields.find? (·.name == key) with
  | some field =>
    if field.isGiven draft then throw (.duplicateField key)
    colon
    field.fill draft
  | none =>
    colon
    skipValue
    return draft

/-- The members of an object up to its closing brace. -/
def fillMembers (r : Record σ α) : (fuel : Nat) → (first : Bool) → σ → Reader σ
  | 0, _, draft => pure draft
  | fuel + 1, first, draft => do
    match ← nextKey first with
    | none => return draft
    | some key => fillMembers r fuel false (← r.fillMember key draft)

/-- The items of an array, one for each field; `i` fields are read already. -/
def fillItems (r : Record σ α) (i : Nat) : List (Field σ) → σ → Reader σ
  | [], draft => pure draft
  | field :: fields, draft => do
    match ← nextItem (i == 0) (field.fill draft) with
    | some draft => fillItems r (i + 1) fields draft
    | none =>
      if field.mayEnd then fillItems r (i + 1) fields draft
      else throw (.invalidLength i r.wantedLength)

/-- Reads a record in either form. -/
def read (r : Record σ α) : Reader α := do
  match ← next? with
  | none => throw .endInValue
  | some c =>
    if c = some '\x7b' then
      advance
      let draft ← r.fillMembers ((← get).length + 1) true r.blank
      let x ← r.build draft
      advance
      return x
    else if c = some '[' then
      advance
      let draft ← r.fillItems 0 r.fields r.blank
      let x ← r.build draft
      endArray
      return x
    else unexpected r.wanted c

end Record

end Matchday.Json
